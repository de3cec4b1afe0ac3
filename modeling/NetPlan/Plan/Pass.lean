import NetPlan.Declaration.Basic
import NetPlan.Declaration.Dimensions
import NetPlan.Notice
import NetPlan.Plan.Basic

/-!
# Passes

A pass goes over entries in order and collects what they declare: layers with their own settings,
tags, the shape, the updater and the global settings. It works against the outline that stands.
If that one is **finalized**, each declaration must repeat the layer at its place; if not,
declarations build a graph from nothing.

A free setting belongs to the layer declared last, unless a block has been opened since; before the
first layer, settings are global. Shared layers take no settings.
-/

namespace NetPlan

/-- Where a pass stands relative to the block of layers. -/
inductive Mode where
  /-- Before any block and any layer. -/
  | outside
  /-- Behind the opening of a block. -/
  | blockStarted
  /-- Behind a layer or the end of a block. -/
  | layerSeen
deriving DecidableEq, Repr

/-- A declared layer with its own settings. -/
structure Slot where
  layer : Layer
  settings : List Entry := []
deriving DecidableEq, Repr

/-- What a pass has collected. -/
structure Pass where
  /-- The declared layers, the last one first. -/
  slots : List Slot := []
  tags : Registry := []
  shape : Shape
  updater : String
  mode : Mode := .outside
  globals : List Entry := []
  notices : List Notice := []
deriving DecidableEq, Repr

/-- Whether a layer may be declared at a place of an outline. -/
def Outline.admit (o : Outline) (index : Nat) (layer : Layer) (e : Entry) : Except Fault Unit :=
  if o.header.finalized then
    if o.layers[index]? = some layer then .ok () else .error (.structureMismatch index e)
  else if o.layers.isEmpty then .ok ()
  else .error .unfinishedStructure

namespace Pass

/-- A pass at its start. -/
def start (p : Plan) : Pass :=
  { shape := p.header.shape, updater := p.updater }

/-- The node that the layer declared last writes, and zero before the first layer. -/
def top (p : Pass) : Int :=
  match p.slots with
  | [] => 0
  | slot :: _ => slot.layer.outputs.headD 0

/-- The pass with a further notice. -/
def note (p : Pass) (n : Notice) : Pass :=
  { p with notices := p.notices ++ [n] }

/-- The pass behind the declaration of a layer. -/
def declare (base : Outline) (p : Pass) (e : Entry) : Except Fault Pass := do
  let index := p.slots.length
  let (layer, tags) ← Declaration.read e p.top index p.tags
  base.admit index layer e
  return { p with slots := { layer } :: p.slots, tags, mode := .layerSeen }

/-- The pass behind a free setting. -/
def assign (p : Pass) (e : Entry) : Except Fault Pass :=
  match p.mode, p.slots with
  | .layerSeen, slot :: older =>
    if slot.layer.isShared then
      .error (.sharedSetting older.length e)
    else
      .ok { p with slots := { slot with settings := slot.settings ++ [e] } :: older }
  | _, _ => .ok { p with globals := p.globals ++ [e] }

/-- The pass behind one entry. -/
def step (base : Outline) (p : Pass) (e : Entry) : Except Fault Pass :=
  match e.role with
  | .inputShape =>
    if base.header.finalized then .ok (p.note .shapeIgnored)
    else do
      let shape ← Shape.read e.value
      return { p with shape }
  | .updater => .ok { p with updater := e.value }
  | .blockStart => .ok { p with mode := .blockStarted }
  | .blockEnd => .ok { p with mode := .layerSeen }
  | .blockMarker => .ok (p.note (.unknownMarker e.value))
  | .layer => p.declare base e
  | .setting => p.assign e

/-- The pass behind the entries before the first bad one, and the fault of that one. -/
def run (base : Outline) (p : Pass) : List Entry → Pass × Option Fault
  | [] => (p, none)
  | e :: rest =>
    match step base p e with
    | .ok p' => run base p' rest
    | .error fault => (p, some fault)

/-- The outline that a pass leaves behind: a finalized one as it was, any other one with the
declared layers, and finalized. -/
def outline (base : Outline) (p : Pass) : Outline :=
  if base.header.finalized then base
  else
    let layers := base.layers ++ p.slots.reverse.map (·.layer)
    { layers
      header :=
        { nodeCount := countNodes layers
          layerCount := layers.length
          shape := p.shape
          finalized := true } }

/-- The plan that a pass leaves behind. -/
def plan (base : Outline) (p : Pass) : Plan :=
  let outline := p.outline base
  let own := p.slots.reverse.map (·.settings)
  { outline
    tags := p.tags
    updater := p.updater
    globals := p.globals
    locals := own ++ List.replicate (outline.layers.length - own.length) [] }

end Pass

end NetPlan
