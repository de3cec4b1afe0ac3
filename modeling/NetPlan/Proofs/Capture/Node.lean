import NetPlan.Proofs.Capture.Record
import NetPlan.Proofs.Listing.Naming
import NetPlan.Proofs.Model.Registration
import NetPlan.Proofs.Model.Trace
import NetPlan.Proofs.Model.WellFormed

/-!
# Graphs and the paths that take a tag

A graph is made of the nodes of the trace (`Model.eq_nodesOf_of_graph`), and a model with an
ordinary listing has one (`Model.remarkedGraph_eq_ok`).

A path takes a tag if the trace calls the module there more than once. It is then the path of a
part, joined from the names of parts (`Model.of_mem_taggedPaths`). The tag of a word is a word
(`isWord_tagOfPath`), and different paths give different tags as long as there are no underscores in
them (`eq_of_tagOfPath_eq`).

In the graph of a well-formed model a path tells the module, and the module the path (`Coherent`,
`Model.WellFormed.coherent_of_graph`). Where there is no graph, a path still tells the module
(`Model.WellFormed.eq_of_mem_capturedNodes`).
-/

namespace NetPlan

open Text

/-- The path of the module of a node. -/
def Node.target? : Node → Option String
  | .module target _ _ => some target
  | .function _ | .method _ => none

/-- The identity of the module of a node. -/
def Node.object? : Node → Option Nat
  | .module _ m _ => some m.id
  | .function _ | .method _ => none

theorem tagOfPath_ne_empty {path : String} (h : path ≠ "") : tagOfPath path ≠ "" := by
  intro hempty
  rw [← String.toList_eq_nil_iff, tagOfPath, String.toList_ofList, List.map_eq_nil_iff] at hempty
  exact h (String.toList_eq_nil_iff.mp hempty)

/-- The tag of a path is a word if the path is. -/
theorem isWord_tagOfPath {path : String} (h : IsWord path) : IsWord (tagOfPath path) := by
  refine ⟨tagOfPath_ne_empty h.1, fun c hc => ?_⟩
  rw [tagOfPath, String.toList_ofList] at hc
  obtain ⟨c', hc', rfl⟩ := List.mem_map.mp hc
  split
  · decide
  · exact h.2 c' hc'

/-- Where there is no underscore in a path, its tag tells the path. -/
theorem map_toList_tagOfPath {path : String} (h : '_' ∉ path.toList) :
    ((tagOfPath path).toList.map fun c => if c = '_' then '.' else c) = path.toList := by
  rw [tagOfPath, String.toList_ofList, List.map_map]
  refine (List.map_congr_left fun c hc => ?_).trans (List.map_id _)
  have hne : c ≠ '_' := fun hc' => h (hc' ▸ hc)
  by_cases hdot : c = '.' <;> simp [hdot, hne]

/-- Paths without underscores have the same tag only if they are the same. -/
theorem eq_of_tagOfPath_eq {a b : String} (ha : '_' ∉ a.toList) (hb : '_' ∉ b.toList)
    (h : tagOfPath a = tagOfPath b) : a = b := by
  rw [← String.toList_inj, ← map_toList_tagOfPath ha, h, map_toList_tagOfPath hb]

theorem not_mem_underscore_join {path name : String} (hpath : path = "" ∨ '_' ∉ path.toList)
    (hname : '_' ∉ name.toList) : '_' ∉ (Path.join path name).toList := by
  unfold Path.join
  split
  · exact hname
  · rename_i hne
    simp [hpath.resolve_left hne, hname]

/-! ### Graphs by identities and by paths -/

/-- In a graph a path tells the module, a module tells the path, and reused are exactly the modules
that are called more than once. -/
structure Coherent (nodes : List Node) : Prop where
  model_eq : ∀ {a : String} {x y : Model} {reused reused' : Bool}, .module a x reused ∈ nodes →
    .module a y reused' ∈ nodes → x = y
  path_eq : ∀ {a b : String} {x y : Model} {reused reused' : Bool}, .module a x reused ∈ nodes →
    .module b y reused' ∈ nodes → x.id = y.id → a = b
  reused_eq : ∀ {a : String} {x : Model} {reused : Bool}, .module a x reused ∈ nodes →
    reused = decide (1 < (nodes.filterMap Node.target?).count a)

namespace Coherent

variable {nodes done rest : List Node} {x y : Model} {a b : String} {reused reused' : Bool}

/-- Calls of one module are the same node. -/
theorem eq_of_id_eq (h : Coherent nodes)
    (hx : .module a x reused ∈ nodes) (hy : .module b y reused' ∈ nodes) (hid : x.id = y.id) :
    Node.module a x reused = .module b y reused' := by
  obtain rfl := h.path_eq hx hy hid
  rw [h.model_eq hx hy, h.reused_eq hx, h.reused_eq hy]

/-- The second call of a module is marked as reused. -/
theorem reused_of_mem (h : Coherent (done ++ .module a x reused :: rest))
    (hdone : .module a y reused' ∈ done) : reused = true := by
  have hfirst : 0 < (done.filterMap Node.target?).count a :=
    List.count_pos_iff.mpr (List.mem_filterMap.mpr ⟨_, hdone, rfl⟩)
  have hown : (Node.module a x reused :: rest).filterMap Node.target? =
      a :: rest.filterMap Node.target? := rfl
  rw [h.reused_eq (List.mem_append_right done List.mem_cons_self), decide_eq_true_eq,
    List.filterMap_append, List.count_append, hown, List.count_cons_self]
  omega

end Coherent

namespace Model

variable {m : Model} {nodes : List Node} {a : String}

/-! ### Graphs -/

theorem eq_of_graphOfText {text? : Option (List Char)} {nodes' : List Node}
    (h : (m.graphOfText nodes text?).2 = .ok nodes') : nodes' = nodes := by
  simp only [graphOfText] at h
  repeat' split at h
  all_goals cases h <;> rfl

theorem eq_of_graphOf {nodes' : List Node} (h : (m.graphOf nodes).2 = .ok nodes') :
    nodes' = nodes := by
  unfold graphOf at h
  split at h
  · cases h
  · split at h
    · cases h
    · exact eq_of_graphOfText h

/-- A graph consists of the nodes of the trace. -/
theorem eq_nodesOf_of_graph (h : m.graph = .ok nodes) : nodes = m.nodesOf m.trace.calls := by
  unfold graph remarkedGraph at h
  dsimp only at h
  -- the trace itself is of no account, and it is large when unfolded
  generalize m.nodesOf m.trace.calls = traced at h ⊢
  split at h
  · cases h
  · cases h
  · split at h
    · cases h
    · exact eq_of_graphOf h

/-- A plain listing in which few and small numbers are in the way is no obstacle, nor are parts
without clashes. -/
theorem remarkedGraph_eq_ok {k : Nat} (hnodes : m.nodesOf m.trace.calls = nodes)
    (hhalt : m.trace.halt? = none)
    (hhints : ∀ c ∈ (m.listing nodes).callees, Listing.HintWithin k c.hint)
    (hroom : (k + Listing.guardedWords.length + 1) * 2 ^ ((m.listing nodes).callees.length + 2) ≤
      Listing.numberLimit)
    (hplain : (m.listing nodes).isPlain = true)
    (hearly : Assembly.checkEarly (nodes.filterMap Node.path?) = .ok ())
    (htext : Assembly.checkText (nodes.filterMap Node.path?) = .ok ())
    (hlate : Assembly.checkLate (nodes.filterMap Node.path?) = .ok ()) :
    m.remarkedGraph = ([], .ok nodes) := by
  obtain ⟨hcalls, hresults⟩ := Listing.checks_eq_ok hhints hroom
  have hread : m.graphOfText nodes none = ([], .ok nodes) := by
    rw [graphOfText, htext, hlate]
    rfl
  have hgraph : m.graphOf nodes = ([], .ok nodes) := by
    rw [graphOf, hearly, Listing.strangeText?, if_pos hplain]
    exact hread
  unfold remarkedGraph
  dsimp only
  rw [hnodes, hcalls, hhalt, hresults]
  exact hgraph

/-! ### Tagged paths -/

/-- A path that is marked as reused is that of a module that some call goes to. -/
theorem exists_call_of_mem_nodesOf {calls : List Call} {part : Model}
    (h : .module a part true ∈ m.nodesOf calls) :
    ∃ id op, .leaf id op ∈ calls ∧ pathOf? m.registered id = some a := by
  simp only [nodesOf, List.mem_map] at h
  obtain ⟨call, -, hcall⟩ := h
  cases call with
  | function f => cases hcall
  | method name => cases hcall
  | leaf id op =>
    obtain ⟨rfl, -, hreused⟩ := Node.module.inj hcall
    -- the path is counted, so it is the path of some call
    have hmem := List.count_pos_iff.mp (Nat.lt_trans Nat.zero_lt_one (of_decide_eq_true hreused))
    obtain ⟨call', hcall', htarget⟩ := List.mem_filterMap.mp hmem
    cases call' with
    | function f => cases htarget
    | method name => cases htarget
    | leaf id' op' => exact ⟨id', op', hcall', htarget⟩

/-- A path takes a tag only if the trace calls a leaf there. -/
theorem exists_call_of_mem_taggedPaths (h : a ∈ m.taggedPaths) :
    ∃ id op, .leaf id op ∈ m.trace.calls ∧ pathOf? m.registered id = some a := by
  obtain ⟨node, hnode, hpath⟩ := List.mem_filterMap.mp h
  obtain ⟨part, rfl⟩ := Node.eq_module_of_taggedPath? hpath
  unfold capturedNodes at hnode
  split at hnode
  · rename_i nodes hgraph
    rw [eq_nodesOf_of_graph hgraph] at hnode
    exact exists_call_of_mem_nodesOf hnode
  · obtain ⟨⟨path, part'⟩, -, hleaf⟩ := List.mem_map.mp hnode
    cases hleaf

/-- What holds of all names and survives joining holds of the paths that take a tag. -/
theorem of_mem_taggedPaths {Q : String → Prop}
    (hjoin : ∀ {path name : String}, path = "" ∨ Q path → Q name → Q (Path.join path name))
    (hnames : ∀ part ∈ m.parts, Q part.1) (hself : ∀ part ∈ m.parts, part.2.id ≠ m.id)
    (h : a ∈ m.taggedPaths) : Q a := by
  obtain ⟨id, op, hcall, hpath⟩ := exists_call_of_mem_taggedPaths h
  obtain ⟨part, hpart, hleaf⟩ := List.mem_map.mp (mem_parts_of_trace hcall)
  have hid : id ≠ m.id := by
    have hne := hself part hpart
    rwa [hleaf] at hne
  exact of_pathOf? hjoin hnames hid hpath

/-! ### Modules of well-formed models -/

namespace WellFormed

variable {x y : Model} {reused reused' : Bool}

/-- A module in the graph is a leaf that the trace calls, and stands at its own path. -/
theorem of_mem_nodesOf (h : m.WellFormed) (hx : .module a x reused ∈ m.nodesOf m.trace.calls) :
    ∃ id op, x = leaf id op ∧ .leaf id op ∈ m.trace.calls ∧ x ∈ m.modules ∧
      pathOf? m.registered id = some a := by
  obtain ⟨call, hcall, hnode⟩ := List.mem_map.mp hx
  cases call with
  | function f => cases hnode
  | method name => cases hnode
  | leaf id op =>
    obtain ⟨htarget, hleaf, -⟩ := Node.module.inj hnode
    have hmem : leaf id op ∈ m.modules := List.mem_cons_of_mem m (mem_parts_of_trace hcall)
    obtain ⟨path, hpath⟩ := h.exists_pathOf? hmem
    have hpath' : pathOf? m.registered id = some path := hpath
    rw [hpath', Option.getD_some] at htarget
    exact ⟨id, op, hleaf.symm, hcall, hleaf ▸ hmem, htarget ▸ hpath'⟩

/-- **Graphs of well-formed models are coherent**: there paths and modules tell each other, by
registration. -/
theorem coherent_of_graph (h : m.WellFormed) (hgraph : m.graph = .ok nodes) :
    Coherent nodes := by
  obtain rfl := eq_nodesOf_of_graph hgraph
  have hmem {a : String} {x : Model} {reused : Bool}
      (hx : .module a x reused ∈ m.nodesOf m.trace.calls) :
      x ∈ m.modules ∧ pathOf? m.registered x.id = some a := by
    obtain ⟨id, op, rfl, -, hmem, hpath⟩ := h.of_mem_nodesOf hx
    exact ⟨hmem, hpath⟩
  -- the paths of the nodes are those that the calls go to, as each call goes to some path
  have htargets : (m.nodesOf m.trace.calls).filterMap Node.target? =
      m.trace.calls.filterMap (targetOf? m.registered) := by
    rw [nodesOf, List.filterMap_map]
    refine List.filterMap_congr fun call hcall => ?_
    cases call with
    | function f | method name => rfl
    | leaf id op =>
      have hx := List.mem_cons_of_mem m (mem_parts_of_trace hcall)
      obtain ⟨path, hpath⟩ := h.exists_pathOf? hx
      have hpath' : pathOf? m.registered id = some path := hpath
      simp [nodeOf, Node.target?, targetOf?, hpath']
  refine ⟨fun hx hy => ?_, fun hx hy hid => ?_, fun hx => ?_⟩
  · obtain ⟨hx, hpath⟩ := hmem hx
    obtain ⟨hy, hpath'⟩ := hmem hy
    exact h.eq_of_pathOf?_eq hx hy (hpath.trans hpath'.symm)
  · obtain ⟨-, hpath⟩ := hmem hx
    obtain ⟨-, hpath'⟩ := hmem hy
    rw [hid, hpath'] at hpath
    exact (Option.some.inj hpath).symm
  · rw [htargets]
    obtain ⟨call, -, hnode⟩ := List.mem_map.mp hx
    cases call with
    | function f | method name => cases hnode
    | leaf id op =>
      obtain ⟨rfl, -, hreused⟩ := Node.module.inj hnode
      exact hreused.symm

/-- A path tells the module, both in the graph and among the leaves. -/
theorem eq_of_mem_capturedNodes (h : m.WellFormed) (hx : .module a x reused ∈ m.capturedNodes)
    (hy : .module a y reused' ∈ m.capturedNodes) : x = y := by
  unfold capturedNodes at hx hy
  cases hgraph : m.graph with
  | ok nodes =>
    rw [hgraph] at hx hy
    exact (h.coherent_of_graph hgraph).model_eq hx hy
  | error obstacle =>
    rw [hgraph] at hx hy
    obtain ⟨e, he, hnode⟩ := List.mem_map.mp hx
    obtain ⟨e', he', hnode'⟩ := List.mem_map.mp hy
    obtain ⟨rfl, rfl, -⟩ := Node.module.inj hnode
    obtain ⟨hpath, rfl, -⟩ := Node.module.inj hnode'
    rw [h.eq_of_mem_registered (List.mem_filter.mp he).1 (List.mem_filter.mp he').1 hpath.symm]

/-- The model itself takes no tag. -/
theorem ne_empty_of_mem_taggedPaths (h : m.WellFormed) (ha : a ∈ m.taggedPaths) : a ≠ "" :=
  of_mem_taggedPaths (Q := (· ≠ "")) (fun {path _} _ hname => Path.join_ne_empty path hname)
    (fun part hpart => (h.names part hpart).ne_empty) h.id_ne ha

end WellFormed

end Model

end NetPlan
