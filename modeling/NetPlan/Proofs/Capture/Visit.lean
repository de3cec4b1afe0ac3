import NetPlan.Capture.Basic
import NetPlan.Proofs.Fault

/-!
# Visits

What comes of a node of a model hangs on the node and on the tags that are taken when it is reached.
A **visit** tells it as a whole: the layer that is written down with its settings, the tag that is
taken, the notice, and the fault if the node cannot be written down.

A capture is its visits, one after another up to one that fails (`Capture.visits`), between the ends
of the block. `Capturer.capture_eq` says so for every capturer, model and shape, also for captures
that fail.
-/

namespace NetPlan

/-- What comes of a node. -/
structure Visit where
  node : Node
  /-- The layer that is written down: its kind and its tag, which may be empty. -/
  layer? : Option (Kind × String) := none
  /-- The settings behind it. -/
  settings : List Entry := []
  /-- The tag that is taken, with its path. -/
  taken? : Option (String × String) := none
  notice? : Option Notice := none
  fault? : Option Fault := none

namespace Visit

/-- The declarations that a visit adds. -/
def declared (v : Visit) : List Entry :=
  match v.layer? with
  | some (kind, tag) => onwardEntry kind tag :: v.settings
  | none => []

/-- The fault of the visit that failed. -/
def fault (vs : List Visit) : Option Fault :=
  vs.findSome? (·.fault?)

theorem fault_cons_of_eq_none {v : Visit} (hv : v.fault? = none) (vs : List Visit) :
    fault (v :: vs) = fault vs := by
  rw [fault, List.findSome?_cons, hv]
  rfl

end Visit

/-- What has been captured behind some visits. -/
def Capturer.behind (c : Capturer) (vs : List Visit) : Capturer :=
  { declarations := c.declarations ++ vs.flatMap Visit.declared
    tags := c.tags ++ vs.filterMap Visit.taken?
    notices := c.notices ++ vs.filterMap Visit.notice? }

@[simp]
theorem Capturer.behind_nil (c : Capturer) : c.behind [] = c := by
  simp [behind]

/-- Visits add to what the visits before them have left. -/
theorem Capturer.behind_append (c : Capturer) (vs ws : List Visit) :
    c.behind (vs ++ ws) = (c.behind vs).behind ws := by
  simp [behind]

/-- The nodes that a capture writes down: those of the graph if there is one, and else the
leaves. -/
@[irreducible]
def Model.capturedNodes (m : Model) : List Node :=
  match m.graph with
  | .ok nodes => nodes
  | .error _ => m.leafNodes

/-- The notices of a capture before its nodes. -/
def Model.headNotices (m : Model) : List Notice :=
  m.remarkedGraph.1.map .listingDoubted ++
    match m.graph with
    | .ok _ => []
    | .error obstacle => [.tracingFailed obstacle.reason]

namespace Capture

variable {c : Capturer} {tags : List (String × String)} {v : Visit} {vs : List Visit}
  {nodes : List Node}

/-! ### Single steps -/

@[simp]
theorem run_declare (es : List Entry) (c : Capturer) :
    (declare es).run c = .ok () { c with declarations := c.declarations ++ es } := rfl

@[simp]
theorem run_note (n : Notice) (c : Capturer) :
    (note n).run c = .ok () { c with notices := c.notices ++ [n] } := rfl

@[simp]
theorem run_takeTag (target tag : String) (c : Capturer) :
    (takeTag target tag).run c = .ok () { c with tags := c.tags ++ [(target, tag)] } := rfl

@[simp]
theorem run_ofExcept_ok {α : Type} (a : α) (c : Capturer) :
    (ofExcept (.ok a)).run c = .ok a c := rfl

@[simp]
theorem run_ofExcept_error {α : Type} (fault : Fault) (c : Capturer) :
    (ofExcept (.error fault) : Capture α).run c = .error fault c := rfl

/-! ### Visits -/

/-- The visit of a module whose path has no tag. -/
def visitNew (target : String) (m : Model) (reused : Bool) : Visit :=
  let node := .module target m reused
  match m.kind? with
  | none => { node, notice? := some (.moduleSkipped target m.className) }
  | some kind =>
    let taken? := if reused then some (target, tagOfPath target) else none
    match m.settings with
    | .ok settings =>
      { node, layer? := some (kind, if reused then tagOfPath target else ""), settings, taken? }
    | .error fault => { node, taken?, fault? := some fault }

/-- The visit of a node, if some tags are taken. -/
def visit (tags : List (String × String)) : Node → Visit
  | .module target m reused =>
    match tags.find? (·.1 = target) with
    | some (_, tag) => { node := .module target m reused, layer? := some (.shared, tag) }
    | none => visitNew target m reused
  | .function f =>
    match f.kind? with
    | some kind => { node := .function f, layer? := some (kind, "") }
    | none => { node := .function f, notice? := some (.functionSkipped f.name) }
  | .method name => { node := .method name, notice? := some (.methodSkipped name) }

/-- A module is called again if its path has a tag, and else it is new. -/
theorem visit_module_cases (tags : List (String × String)) (target : String) (m : Model)
    (reused : Bool) :
    (∃ tag, (target, tag) ∈ tags ∧ visit tags (.module target m reused) =
      { node := .module target m reused, layer? := some (.shared, tag) }) ∨
    target ∉ tags.map (·.1) ∧ visit tags (.module target m reused) = visitNew target m reused := by
  simp only [visit]
  cases hfind : tags.find? (·.1 = target) with
  | some found =>
    obtain rfl : found.1 = target := by simpa using List.find?_some hfind
    exact .inl ⟨found.2, List.mem_of_find?_eq_some hfind, rfl⟩
  | none =>
    refine .inr ⟨fun hmem => ?_, rfl⟩
    obtain ⟨entry, hentry, htarget⟩ := List.mem_map.mp hmem
    exact List.find?_eq_none.mp hfind entry hentry (by simpa using htarget)

theorem node_visitNew (target : String) (m : Model) (reused : Bool) :
    (visitNew target m reused).node = .module target m reused := by
  unfold visitNew
  cases m.kind? with
  | none => rfl
  | some kind => cases m.settings <;> rfl

@[simp]
theorem node_visit (tags : List (String × String)) (node : Node) :
    (visit tags node).node = node := by
  cases node with
  | module target m reused =>
    rcases visit_module_cases tags target m reused with ⟨tag, -, hvisit⟩ | ⟨-, hvisit⟩
    · rw [hvisit]
    · rw [hvisit, node_visitNew]
  | function f =>
    simp only [visit]
    cases f.kind? <;> rfl
  | method name => rfl

/-- The visits of some nodes, one after another, up to one that fails. -/
def visits (tags : List (String × String)) : List Node → List Visit
  | [] => []
  | node :: rest =>
    let v := visit tags node
    match v.fault? with
    | some _ => [v]
    | none => v :: visits (tags ++ v.taken?.toList) rest

/-- What some visits leave: the capturer behind them, and the fault if one of them failed. -/
def leave (c : Capturer) (vs : List Visit) : EStateM.Result Fault Capturer Unit :=
  match Visit.fault vs with
  | none => .ok () (c.behind vs)
  | some fault => .error fault (c.behind vs)

theorem leave_singleton (c : Capturer) (v : Visit) :
    leave c [v] = match v.fault? with
      | none => .ok () (c.behind [v])
      | some fault => .error fault (c.behind [v]) := by
  rw [leave, Visit.fault, List.findSome?_singleton]

/-- Visits behind one that did not fail start from the capturer behind it. -/
theorem leave_cons (hv : v.fault? = none) (c : Capturer) (vs : List Visit) :
    leave c (v :: vs) = leave (c.behind [v]) vs := by
  rw [leave, leave, Visit.fault_cons_of_eq_none hv, ← Capturer.behind_append, List.singleton_append]

/-- Writing down a module whose path has no tag leaves what its visit does. -/
theorem run_recordNew (target : String) (m : Model) (reused : Bool) (c : Capturer) :
    (recordNew target m reused).run c = leave c [visitNew target m reused] := by
  unfold recordNew visitNew
  rw [leave_singleton]
  cases m.kind? with
  | none => simp [Capturer.behind, Visit.declared]
  | some kind =>
    cases m.settings with
    | ok settings => cases reused <;> simp [Capturer.behind, Visit.declared]
    | error fault => cases reused <;> simp [Capturer.behind, Visit.declared]

/-- Writing down a module leaves what its visit does, for the tags that are taken by then. -/
theorem run_recordModule (target : String) (m : Model) (reused : Bool) (c : Capturer) :
    (recordModule target m reused).run c = leave c [visit c.tags (.module target m reused)] := by
  unfold recordModule visit
  rw [EStateM.run_bind, EStateM.run_get]
  dsimp only
  cases c.tags.find? (·.1 = target) with
  | none => exact run_recordNew target m reused c
  | some found => simp [leave_singleton, Capturer.behind, Visit.declared]

/-- Writing down any node leaves what its visit does. -/
theorem run_record (node : Node) (c : Capturer) :
    (record node).run c = leave c [visit c.tags node] := by
  cases node with
  | module target m reused => exact run_recordModule target m reused c
  | method name => simp [record, visit, leave_singleton, Capturer.behind, Visit.declared]
  | function f =>
    unfold record recordFunction visit
    cases hkind : f.kind? <;> simp [hkind, leave_singleton, Capturer.behind, Visit.declared]

/-- Nodes are written down as their visits, up to the first one that fails. -/
theorem run_forM_record (nodes : List Node) (c : Capturer) :
    (nodes.forM record).run c = leave c (visits c.tags nodes) := by
  induction nodes generalizing c with
  | nil => simp [visits, leave, Visit.fault]
  | cons node nodes ih =>
    change (record node >>= fun _ => nodes.forM record).run c = _
    rw [EStateM.run_bind, run_record, leave_singleton, visits]
    cases hfault : (visit c.tags node).fault? with
    | some fault => simp [leave_singleton, hfault]
    | none =>
      -- the tags behind the node are those that are taken for the rest
      have htags : (c.behind [visit c.tags node]).tags =
          c.tags ++ (visit c.tags node).taken?.toList := by
        cases htaken : (visit c.tags node).taken? <;> simp [Capturer.behind, htaken]
      simp only [leave_cons hfault, ← htags]
      exact ih (c.behind [visit c.tags node])

/-! ### Captures -/

/-- The entries that give the shape of the input, if it is given. -/
def shapeEntries (inputShape : Option (List Number)) : Except Fault (List Entry) :=
  match inputShape with
  | none => .ok []
  | some dimensions => (shapeEntry dimensions).map ([·])

/-- A shape is written as its numbers, cut to whole ones, with commas between them. -/
theorem shapeEntries_some_eq_ok_iff {dimensions : List Number} {head : List Entry} :
    shapeEntries (some dimensions) = .ok head ↔
      ∃ sides, dimensions.mapM Number.truncate = .ok sides ∧
        head = [⟨inputShapeKey, ",".intercalate (sides.map toString)⟩] := by
  unfold shapeEntries shapeEntry
  dsimp only
  generalize dimensions.mapM Number.truncate = sides?
  cases sides? with
  | error fault => simp [Except.map, bind, Except.bind]
  | ok sides => simp [Except.map, bind, Except.bind, pure, Except.pure, eq_comm]

/-- The shape is declared as it is written, or the capture fails with nothing declared. -/
theorem run_recordShape (inputShape : Option (List Number)) (c : Capturer) :
    (recordShape inputShape).run c = match shapeEntries inputShape with
      | .ok head => .ok () { c with declarations := c.declarations ++ head }
      | .error fault => .error fault c := by
  cases inputShape with
  | none => simp [recordShape, shapeEntries]
  | some dimensions =>
    simp only [recordShape, shapeEntries, EStateM.run_bind]
    cases shapeEntry dimensions with
    | ok entry => rfl
    | error fault => rfl

/-- The remarks on a listing add notices alone. -/
theorem run_forM_note (remarks : List String) (c : Capturer) :
    (remarks.forM fun remark => note (.listingDoubted remark)).run c =
      .ok () { c with notices := c.notices ++ remarks.map .listingDoubted } := by
  induction remarks generalizing c with
  | nil => simp
  | cons remark remarks ih =>
    change (note _ >>= fun _ => remarks.forM _).run c = _
    rw [EStateM.run_bind, run_note]
    dsimp only
    rw [ih, List.map_cons, List.append_assoc, List.singleton_append]

/-- Behind the notices on the model, a capture leaves what the visits of its nodes do. -/
theorem run_recordNodes (m : Model) (c : Capturer) :
    (recordNodes m).run c =
      leave { c with notices := c.notices ++ m.headNotices } (visits c.tags m.capturedNodes) := by
  unfold recordNodes Model.headNotices Model.capturedNodes Model.graph
  generalize m.remarkedGraph = remarked
  obtain ⟨remarks, graph⟩ := remarked
  dsimp only
  rw [EStateM.run_bind, run_forM_note]
  cases graph with
  | ok nodes =>
    rw [List.append_nil]
    exact run_forM_record nodes _
  | error obstacle =>
    rw [← List.append_assoc]
    exact run_forM_record m.leafNodes _

end Capture

namespace Capturer

open Capture

/-- The visits of a capture; there are none if the shape cannot be written. -/
def visits (c : Capturer) (m : Model) (inputShape : Option (List Number)) : List Visit :=
  match shapeEntries inputShape with
  | .ok _ => Capture.visits c.tags m.capturedNodes
  | .error _ => []

/-- **A capture is its visits** between the ends of a block. The shape of the input stands before
them; if it cannot be written, nothing is captured. A visit that fails stops the capture, and the
block stays open. -/
theorem capture_eq (c : Capturer) (m : Model) (inputShape : Option (List Number)) :
    c.capture m inputShape =
      match shapeEntries inputShape with
      | .error fault => ({ c with notices := [] }, some fault)
      | .ok head =>
        let vs := Capture.visits c.tags m.capturedNodes
        let body :=
          c.declarations ++ head ++ [⟨blockKey, blockStartWord⟩] ++ vs.flatMap Visit.declared
        let tags := c.tags ++ vs.filterMap Visit.taken?
        let notices := m.headNotices ++ vs.filterMap Visit.notice?
        match Visit.fault vs with
        | some fault => ({ declarations := body, tags, notices }, some fault)
        | none =>
          ({ declarations := body ++ [⟨blockKey, blockEndWord⟩], tags, notices }, none) := by
  unfold capture Capture.model
  rw [EStateM.run_bind, run_recordShape]
  cases shapeEntries inputShape with
  | error fault => rfl
  | ok head =>
    dsimp only
    rw [EStateM.run_bind, run_declare]
    dsimp only
    rw [EStateM.run_bind, run_recordNodes, leave]
    cases hfault : Visit.fault (Capture.visits c.tags m.capturedNodes) with
    | none => simp [behind]
    | some fault => simp [behind]

end Capturer

end NetPlan
