import NetPlan.Capture.Node
import NetPlan.Notice

/-!
# Captures

A capture writes the declarations of a model: the shape of the input if it is given, and then, in a
block, one layer for each node that a kind stands for, with the settings of that layer. Nodes that
no kind stands for are passed over with a notice. A model that has no graph is captured by its
leaves.

A module that is called more than once gets a **tag**, its path with underscores for dots, when it
is written down first; further calls become shared layers with that tag. Declarations and tags of a
capturer pile up over its captures. The tag of a module is taken before its settings are looked at,
so a capture that fails there leaves the tag behind.
-/

namespace NetPlan

/-- What has been captured. -/
structure Capturer where
  declarations : List Entry := []
  /-- The tag of each module that has one, by path, in the order in which they were taken. -/
  tags : List (String × String) := []
  notices : List Notice := []
deriving DecidableEq, Repr

/-- A computation that adds to what has been captured. A fault leaves what was added before it. -/
abbrev Capture := EStateM Fault Capturer

namespace Capture

/-- Adds declarations. -/
def declare (entries : List Entry) : Capture Unit :=
  modify fun c => { c with declarations := c.declarations ++ entries }

/-- Adds a notice. -/
def note (n : Notice) : Capture Unit :=
  modify fun c => { c with notices := c.notices ++ [n] }

/-- Takes a tag for a path. -/
def takeTag (target tag : String) : Capture Unit :=
  modify fun c => { c with tags := c.tags ++ [(target, tag)] }

/-- Goes on with a result, or stops with its fault. -/
def ofExcept {α : Type} : Except Fault α → Capture α
  | .ok a => return a
  | .error fault => throw fault

end Capture

/-- The tag that a path gives. -/
def tagOfPath (target : String) : String :=
  String.ofList (target.toList.map fun c => if c = '.' then '_' else c)

/-- The declaration of a layer behind the previous one; an empty tag is left out. -/
def onwardEntry (kind : Kind) (tag : String) : Entry :=
  { key := layerLead ++ "+1]"
    value := if tag = "" then kind.name else kind.name ++ ":" ++ tag }

namespace Capture

/-- Writes down a module that no layer stands for yet. -/
def recordNew (target : String) (m : Model) (reused : Bool) : Capture Unit := do
  match m.kind? with
  | none => note (.moduleSkipped target m.className)
  | some kind =>
    if reused then
      takeTag target (tagOfPath target)
    let settings ← ofExcept m.settings
    declare (onwardEntry kind (if reused then tagOfPath target else "") :: settings)

/-- Writes down a module: as a shared layer if its path has a tag. -/
def recordModule (target : String) (m : Model) (reused : Bool) : Capture Unit := do
  match (← get).tags.find? (·.1 = target) with
  | some (_, tag) => declare [onwardEntry .shared tag]
  | none => recordNew target m reused

/-- Writes down a function. -/
def recordFunction (f : Function) : Capture Unit :=
  match f.kind? with
  | some kind => declare [onwardEntry kind ""]
  | none => note (.functionSkipped f.name)

/-- Writes down a node. -/
def record : Node → Capture Unit
  | .module target m reused => recordModule target m reused
  | .function f => recordFunction f
  | .method name => note (.methodSkipped name)

/-- The entry that gives the shape of the input. -/
def shapeEntry (dimensions : List Number) : Except Fault Entry := do
  let sides ← dimensions.mapM Number.truncate
  return ⟨inputShapeKey, ",".intercalate (sides.map toString)⟩

/-- Writes down the shape of the input, if it is given. -/
def recordShape : Option (List Number) → Capture Unit
  | none => return ()
  | some dimensions => do declare [← ofExcept (shapeEntry dimensions)]

/-- Writes down the nodes of a model: of its graph if it has one, and else of its leaves. -/
def recordNodes (m : Model) : Capture Unit := do
  let (remarks, graph) := m.remarkedGraph
  remarks.forM fun remark => note (.listingDoubted remark)
  match graph with
  | .ok nodes => nodes.forM record
  | .error obstacle =>
    note (.tracingFailed obstacle.reason)
    m.leafNodes.forM record

/-- Captures a model. -/
def model (m : Model) (inputShape : Option (List Number)) : Capture Unit := do
  recordShape inputShape
  declare [⟨blockKey, blockStartWord⟩]
  recordNodes m
  declare [⟨blockKey, blockEndWord⟩]

end Capture

namespace Capturer

/-- The capturer behind the capture of a model, with the notices of that capture alone, and the
fault that stopped it. -/
def capture (c : Capturer) (m : Model) (inputShape : Option (List Number)) :
    Capturer × Option Fault :=
  match (Capture.model m inputShape).run { c with notices := [] } with
  | .ok _ c' => (c', none)
  | .error fault c' => (c', some fault)

end Capturer

end NetPlan
