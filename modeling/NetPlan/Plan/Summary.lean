import NetPlan.Plan.Basic

/-!
# Summaries

A plan in words: what is known of the graph, the global settings, and each layer with its nodes and
its own settings.
-/

namespace NetPlan

/-- A line of equals signs. -/
def banner : String :=
  String.ofList (List.replicate 60 '=')

/-- The word for a truth value. -/
def verdict (b : Bool) : String :=
  if b then "True" else "False"

/-- Numbers with commas between them. -/
def commaSeparated (ns : List Int) : String :=
  ", ".intercalate (ns.map toString)

/-- The line of a setting, set in by `margin`. -/
def Entry.line (margin : String) (e : Entry) : String :=
  s!"{margin}{e.key} = {e.value}"

/-- The line of a layer. -/
def Layer.line (l : Layer) (index : Nat) : String :=
  let reuse := if l.isShared then s!" (shares layer {l.primary})" else ""
  s!"  [{index}] {l.kind.name}: [{commaSeparated l.inputs}] -> [{commaSeparated l.outputs}]{reuse}"

namespace Plan

/-- The lines on the graph as a whole. -/
def headerLines (p : Plan) : List String :=
  let s := p.header.shape
  ["",
    s!"Nodes: {p.header.nodeCount}",
    s!"Layers: {p.header.layerCount}",
    s!"Input shape: ({commaSeparated [s.channels, s.height, s.width]})",
    s!"Finalized: {verdict p.finalized}",
    s!"Updater: {p.updater}"]

/-- The lines on the global settings; none if there are no such settings. -/
def globalLines (p : Plan) : List String :=
  if p.globals.isEmpty then []
  else ["", s!"Global settings: {p.globals.length}"] ++ p.globals.map (Entry.line "  ")

/-- The lines on the layers. -/
def layerLines (p : Plan) : List String :=
  ["", "Layer list:"] ++ p.layers.zipIdx.flatMap fun (layer, index) =>
    layer.line index :: (p.locals[index]?.getD []).map (Entry.line "    ")

/-- The plan in words. -/
def summary (p : Plan) : String :=
  let lines := [banner, "Network Configuration", banner] ++ p.headerLines ++ p.globalLines ++
    p.layerLines ++ [banner]
  String.join (lines.map (· ++ "\n"))

end Plan

end NetPlan
