import NetPlan.Declaration.Registry
import NetPlan.Fault
import NetPlan.Layer.Basic

/-!
# Plans

A plan is an outline with what belongs to training: the tags, the name of the updater and the free
settings, which are either **global** or **local** to one layer. Only the outline is archived, so a
plan that takes over an archived outline has no tags and no settings.
-/

namespace NetPlan

/-- A layer graph and the settings attached to it. -/
structure Plan where
  outline : Outline := {}
  tags : Registry := []
  updater : String := "sgd"
  /-- The settings of all layers. -/
  globals : List Entry := []
  /-- The settings of each layer alone, by index. -/
  locals : List (List Entry) := []
deriving DecidableEq, Repr

namespace Plan

/-- The layers of the graph. -/
def layers (p : Plan) : List Layer :=
  p.outline.layers

/-- What is known of the graph as a whole. -/
def header (p : Plan) : Header :=
  p.outline.header

/-- Whether the structure is fixed. -/
def finalized (p : Plan) : Bool :=
  p.header.finalized

/-- The plan without settings: no global ones, and an empty list for each layer. -/
def clearSettings (p : Plan) : Plan :=
  { p with globals := [], locals := p.layers.map fun _ => [] }

/-- The plan with another outline in place of its own, and with no tags and no settings. The updater
stays. -/
def adopt (p : Plan) (o : Outline) : Plan :=
  clearSettings { p with outline := o, tags := [] }

/-- The plan of an outline alone. -/
def ofOutline (o : Outline) : Plan :=
  adopt {} o

/-- The least and the largest index: those that fit a signed word of 64 bits. -/
def indexBounds : Int × Int := (-9223372036854775808, 9223372036854775807)

/-- The settings that a layer sees: the global ones, then its own. A negative index counts from the
end. An index that is out of bounds is turned down before the layers are looked at. -/
def layerSettings (p : Plan) (index : Int) : Except Fault (List Entry) :=
  let position := if index < 0 then index + p.locals.length else index
  if index < indexBounds.1 ∨ indexBounds.2 < index then .error .indexTooWide
  else if position < 0 then .error .noSuchLayer
  else
    match p.locals[position.toNat]? with
    | some own => .ok (p.globals ++ own)
    | none => .error .noSuchLayer

/-! ### Direct changes of the outline -/

/-- The plan with a further layer, and nothing else changed. -/
def appendLayer (p : Plan) (l : Layer) : Plan :=
  { p with outline := { p.outline with layers := p.layers ++ [l] } }

/-- The plan without its last layer, and nothing else changed. -/
def removeLayer (p : Plan) : Except Fault Plan :=
  if p.layers.isEmpty then .error .noLayers
  else .ok { p with outline := { p.outline with layers := p.layers.dropLast } }

/-- The plan with another header, and nothing else changed. -/
def setHeader (p : Plan) (h : Header) : Plan :=
  { p with outline := { p.outline with header := h } }

end Plan

end NetPlan
