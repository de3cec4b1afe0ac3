import NetPlan.Layer.Kind

/-!
# Layers and outlines

A **layer** reads some nodes of the graph and writes others. Layers are known by their position,
so a shared layer points at its primary layer by index. The **header** sums a graph up, and an
**outline**, header and layers together, is the part of a plan that is archived.

`countNodes` is one past the largest node that the layers touch.
-/

namespace NetPlan

/-- One layer: its kind and the nodes that it reads and writes. -/
structure Layer where
  kind : Kind
  inputs : List Int
  outputs : List Int
  /-- The index of the layer whose parameters a shared layer reuses; `-1` for other layers. -/
  primary : Int := -1
deriving DecidableEq, Repr

/-- Whether the layer reuses the parameters of another. -/
def Layer.isShared (l : Layer) : Bool :=
  l.kind.isShared

/-- The nodes that a layer touches. -/
def Layer.nodes (l : Layer) : List Int :=
  l.inputs ++ l.outputs

/-- The shape of one input, without the batch. -/
structure Shape where
  channels : Int
  height : Int
  width : Int
deriving DecidableEq, Repr

/-- What is known of a graph as a whole. -/
structure Header where
  nodeCount : Int := 0
  layerCount : Int := 0
  shape : Shape := ⟨0, 0, 0⟩
  /-- Whether the structure is fixed: a later pass then only checks it. -/
  finalized : Bool := false
deriving DecidableEq, Repr

/-- The structural part of a plan. -/
structure Outline where
  header : Header := {}
  layers : List Layer := []
deriving DecidableEq, Repr

/-- One past the largest node that the layers touch, and zero if they touch none above `-1`. -/
def countNodes (ls : List Layer) : Int :=
  (ls.flatMap Layer.nodes).foldl (fun n i => max (i + 1) n) 0

end NetPlan
