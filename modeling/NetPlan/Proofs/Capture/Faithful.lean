import Mathlib.Data.List.Induction
import NetPlan.Proofs.Capture.Configuration
import NetPlan.Proofs.Capture.Draft
import NetPlan.Proofs.List

/-!
# Configuration with a draft

What the nodes of a graph declare is their draft, and a new plan that is configured with it has the
layers of the draft, their settings, and a tag for each module that is called more than once.

A draft points at first calls, while a pass resolves tags. The two agree if tags and modules of the
nodes tell each other (`Kept.Legible`): the registry of a pass behind some layers of the draft then
leads from a tag to the first call of its module (`Kept.Legible.index?_tagsFrom`). So a pass that
stands behind some layers of a draft goes on by the next one (`Pass.Reaches.completes_slot`), and by
all the others (`Pass.Reaches.completes_draft`).
-/

namespace NetPlan

open Capture Text

theorem Node.exists_object?_of_tag? {node : Node} {tag : String} (h : node.tag? = some tag) :
    ∃ id, node.object? = some id := by
  obtain ⟨a, ha, -⟩ := Option.map_eq_some_iff.mp h
  obtain ⟨m, rfl⟩ := Node.eq_module_of_taggedPath? ha
  exact ⟨m.id, rfl⟩

namespace Registry

/-- Of two registries one behind the other, the first is asked before the second. -/
theorem index?_append (r r' : Registry) (tag : String) :
    (r ++ r').index? tag = (r.index? tag).or (r'.index? tag) := by
  rw [index?, List.find?_append, Option.map_or]
  rfl

end Registry

namespace Kept

variable {ks before after rest : List Kept} {k : Kept} {s : Slot} {slots : List Slot} {tag : String}

/-- Kept nodes of which a pass can read what the draft says: their tags are words, a tag tells the
module and a module the tag, and whatever is called again has a tag. -/
structure Legible (ks : List Kept) : Prop where
  kind_eq : ∀ k ∈ ks, k.node.kind? = some k.kind
  word : ∀ k ∈ ks, ∀ tag ∈ k.node.tag?, IsWord tag
  tag_iff : ∀ k ∈ ks, ∀ tag ∈ k.node.tag?, ∀ k' ∈ ks,
    k'.node.tag? = some tag ↔ k'.node.object? = k.node.object?
  again : ∀ before k after, ks = before ++ k :: after → recalled? ks before.length k ≠ none →
    k.node.tag? ≠ none

theorem tag?_of_tagAt? {i : Nat} {entry : String × Int} (h : tagAt? ks i k = some entry) :
    k.node.tag? = some entry.1 := by
  unfold tagAt? at h
  split at h
  · obtain ⟨tag, htag, rfl⟩ := Option.map_eq_some_iff.mp h
    exact htag
  · cases h

theorem tagsFrom_concat (before : List Kept) (k : Kept) :
    tagsFrom ks 0 (before ++ [k]) = tagsFrom ks 0 before ++ (tagAt? ks before.length k).toList := by
  have hlast : tagsFrom ks before.length [k] = (tagAt? ks before.length k).toList := by
    rw [tagsFrom_cons]
    exact List.append_nil _
  rw [← hlast, tagsFrom, List.zipIdx_append, List.filterMap_append, Nat.zero_add]
  rfl

/-- A node with a tag is recalled if an earlier one has the tag. -/
theorem Legible.recalled?_eq (h : Legible (before ++ k :: after)) (htag : k.node.tag? = some tag) :
    recalled? (before ++ k :: after) before.length k =
      before.findIdx? (·.node.tag? = some tag) := by
  obtain ⟨id, hid⟩ := Node.exists_object?_of_tag? htag
  rw [recalled?_append, hid, Option.bind_some]
  refine List.findIdx?_congr fun k' hk' => decide_eq_decide.mpr ?_
  have hk : k ∈ before ++ k :: after := List.mem_append_right _ List.mem_cons_self
  rw [h.tag_iff k hk tag htag k' (List.mem_append_left _ hk'), hid]

/-- A node that is recalled has its module from an earlier one. -/
theorem exists_of_recalled? (h : recalled? (before ++ k :: after) before.length k ≠ none) :
    ∃ k' ∈ before, ∃ id, k.node.object? = some id ∧ k'.node.object? = some id := by
  rw [recalled?_append] at h
  obtain ⟨first, hfirst⟩ := Option.ne_none_iff_exists'.mp h
  obtain ⟨id, hid, hfirst⟩ := Option.bind_eq_some_iff.mp hfirst
  have hany := List.findIdx?_isSome.symm.trans (Option.isSome_of_eq_some hfirst)
  obtain ⟨k', hk', hobject⟩ := List.any_eq_true.mp hany
  exact ⟨k', hk', id, hid, of_decide_eq_true hobject⟩

/-- A tag that is taken leads to the first node that has it. -/
theorem Legible.index?_tagsFrom (h : Legible (before ++ after)) (tag : String) :
    (tagsFrom (before ++ after) 0 before).index? tag =
      (before.findIdx? (·.node.tag? = some tag)).map Int.ofNat := by
  induction before using List.reverseRecOn generalizing after with
  | nil => rfl
  | append_singleton before k ih =>
    rw [List.append_assoc, List.singleton_append] at h ⊢
    rw [tagsFrom_concat, Registry.index?_append, ih h, List.findIdx?_append,
      List.findIdx?_singleton]
    cases hfirst : before.findIdx? (·.node.tag? = some tag) with
    | some first => rfl
    | none =>
      by_cases htag : k.node.tag? = some tag
      · -- the node is the first one with the tag, and takes it
        have hrecalled := (h.recalled?_eq htag).trans hfirst
        simp [tagAt?, hrecalled, htag, Registry.index?]
      · have hother : Registry.index? (tagAt? (before ++ k :: after) before.length k).toList tag =
            none := by
          rw [Registry.index?_eq_none_iff]
          intro hmem
          obtain ⟨entry, hentry, rfl⟩ := List.mem_map.mp hmem
          exact htag (tag?_of_tagAt? (Option.mem_toList.mp hentry))
        simp [htag, hother]

end Kept

namespace Coherent

variable {nodes : List Node}

/-- The tag of a node tells its module, and the module the tag, if the paths that take a tag can be
told apart. -/
theorem tag_iff (h : Coherent nodes)
    (hapart : ∀ a ∈ nodes.filterMap Node.taggedPath?, ∀ b ∈ nodes.filterMap Node.taggedPath?,
      tagOfPath a = tagOfPath b → a = b)
    {node node' : Node} (hnode : node ∈ nodes) (hnode' : node' ∈ nodes) {tag : String}
    (htag : node.tag? = some tag) : node'.tag? = some tag ↔ node'.object? = node.object? := by
  obtain ⟨a, ha, rfl⟩ := Option.map_eq_some_iff.mp htag
  have hmem := List.mem_filterMap.mpr ⟨node, hnode, ha⟩
  obtain ⟨x, rfl⟩ := Node.eq_module_of_taggedPath? ha
  constructor
  · intro htag'
    obtain ⟨b, hb, heq⟩ := Option.map_eq_some_iff.mp htag'
    obtain rfl := hapart b (List.mem_filterMap.mpr ⟨node', hnode', hb⟩) a hmem heq
    obtain ⟨y, rfl⟩ := Node.eq_module_of_taggedPath? hb
    rw [h.model_eq hnode hnode']
  · intro hobject
    obtain ⟨b, y, reused, rfl, hid⟩ := Node.eq_module_of_object? hobject
    rwa [h.eq_of_id_eq hnode' hnode hid]

/-- A draft of a coherent graph can be read if the paths that take a tag are words and can be told
apart by their tags. -/
theorem legible (h : Coherent nodes) (hwords : ∀ a ∈ nodes.filterMap Node.taggedPath?, IsWord a)
    (hapart : ∀ a ∈ nodes.filterMap Node.taggedPath?, ∀ b ∈ nodes.filterMap Node.taggedPath?,
      tagOfPath a = tagOfPath b → a = b) : Kept.Legible (Kept.ofNodes nodes) where
  kind_eq k hk := (Kept.mem_ofNodes_iff.mp hk).2
  word k hk tag htag := by
    obtain ⟨a, ha, rfl⟩ := Option.map_eq_some_iff.mp htag
    have hnode := (Kept.mem_ofNodes_iff.mp hk).1
    exact isWord_tagOfPath (hwords a (List.mem_filterMap.mpr ⟨k.node, hnode, ha⟩))
  tag_iff k hk tag htag k' hk' :=
    h.tag_iff hapart (Kept.mem_ofNodes_iff.mp hk).1 (Kept.mem_ofNodes_iff.mp hk').1 htag
  again before k after heq hrecalled := by
    obtain ⟨k', hk', hobject⟩ := Kept.exists_of_recalled? (heq ▸ hrecalled)
    obtain ⟨done, others, rfl, rfl, hothers⟩ := List.filterMap_eq_append_iff.mp heq
    obtain ⟨skipped, node, rest, rfl, -, hk, -⟩ := List.filterMap_eq_cons_iff.mp hothers
    obtain ⟨kind, hkind, rfl⟩ := Option.map_eq_some_iff.mp hk
    rw [← List.append_assoc] at h
    obtain ⟨id, hid, hid'⟩ := hobject
    obtain ⟨a, x, reused, rfl, rfl⟩ := Node.eq_module_of_object? hid
    obtain ⟨b, y, reused', hnode, hsame⟩ := Node.eq_module_of_object? hid'
    have hdone : .module b y reused' ∈ done ++ skipped :=
      List.mem_append_left _ (hnode ▸ (Kept.mem_ofNodes_iff.mp hk').1)
    have hown : .module a x reused ∈ done ++ skipped ++ .module a x reused :: rest :=
      List.mem_append_right _ List.mem_cons_self
    obtain rfl := h.path_eq (List.mem_append_left _ hdone) hown hsame
    obtain rfl := h.reused_of_mem hdone
    have htagged : Node.taggedPath? (.module b x true) = some b :=
      if_pos (Option.isSome_of_eq_some hkind)
    simp [Node.tag?, htagged]

end Coherent

namespace Pass

open Kept

variable {ks before after rest : List Kept} {k : Kept} {s : Slot} {slots : List Slot} {p : Pass}

/-- A pass stands behind the layers of a draft for some nodes. -/
structure Reaches (ks before : List Kept) (p : Pass) : Prop where
  length_eq : p.slots.length = before.length
  top_eq : p.top = before.length
  tags_eq : p.tags = tagsFrom ks 0 before

/-- The pass behind a further layer with its settings. -/
def behind (p : Pass) (s : Slot) (tags : Registry) : Pass :=
  { p with slots := s :: p.slots, tags, mode := .layerSeen }

namespace Reaches

/-- The tag of a node is resolved as the draft says. -/
theorem resolve_eq (h : Reaches (before ++ k :: after) before p)
    (hks : Legible (before ++ k :: after))
    (hs : slot (before ++ k :: after) before.length k = .ok s) :
    Declaration.resolve s.layer.kind (k.node.tag?.getD "") p.slots.length p.tags =
      .ok (s.layer.primary, tagsFrom (before ++ k :: after) 0 (before ++ [k])) := by
  have hmem : k ∈ before ++ k :: after := List.mem_append_right _ List.mem_cons_self
  have hindex (tag : String) :
      p.tags.index? tag = (before.findIdx? (·.node.tag? = some tag)).map Int.ofNat := by
    rw [h.tags_eq, hks.index?_tagsFrom]
  rw [Declaration.resolve_eq_ok_iff, tagsFrom_concat, ← h.tags_eq]
  unfold slot at hs
  unfold tagAt?
  cases hrecalled : recalled? (before ++ k :: after) before.length k with
  | some first =>
    rw [hrecalled] at hs
    obtain rfl := Except.ok.inj hs
    obtain ⟨tag, htag⟩ := Option.ne_none_iff_exists'.mp
      (hks.again before k after rfl (by simp [hrecalled]))
    have hfirst := (hks.recalled?_eq htag).symm.trans hrecalled
    refine .inl ⟨rfl, ?_, ?_, ?_⟩
    · rw [htag]
      exact (hks.word k hmem tag htag).1
    · rw [htag, Option.getD_some, hindex, hfirst]
      rfl
    · simp
  | none =>
    rw [hrecalled] at hs
    obtain ⟨settings, hsettings, rfl⟩ := map_eq_ok_iff.mp hs
    have hkind := Node.isShared_of_kind? (hks.kind_eq k hmem)
    cases htag : k.node.tag? with
    | none => exact .inr (.inl ⟨hkind, rfl, rfl, by simp⟩)
    | some tag =>
      have hfresh := (hks.recalled?_eq htag).symm.trans hrecalled
      refine .inr (.inr ⟨hkind, (hks.word k hmem tag htag).1, ?_, rfl, ?_⟩)
      · rw [Option.getD_some, hindex, hfresh]
        rfl
      · simp [Registry.add, h.length_eq]

/-- A pass that stands behind some layers of a draft goes on by the next one, and stands then behind
that. -/
theorem completes_slot (h : Reaches (before ++ k :: after) before p)
    (hks : Legible (before ++ k :: after))
    (hroom : ((before ++ k :: after).length : Int) ≤ maxNodeIndex)
    (hs : slot (before ++ k :: after) before.length k = .ok s) :
    let p' := p.behind s (tagsFrom (before ++ k :: after) 0 (before ++ [k]))
    Completes {} p (onwardEntry s.layer.kind (k.node.tag?.getD "") :: s.settings) p' ∧
      Reaches (before ++ k :: after) (before ++ [k]) p' := by
  have hmem : k ∈ before ++ k :: after := List.mem_append_right _ List.mem_cons_self
  have htag : k.node.tag?.getD "" = "" ∨ IsWord (k.node.tag?.getD "") := by
    cases htag : k.node.tag? with
    | none => exact .inl rfl
    | some tag => exact .inr (hks.word k hmem tag htag)
  have htop : p.top + 1 ≤ maxNodeIndex := by
    rw [h.top_eq]
    rw [List.length_append, List.length_cons] at hroom
    omega
  have hlayer := completes_layer htag htop (h.resolve_eq hks hs)
    (settings_of_slot (hks.kind_eq k hmem) hs)
  obtain ⟨hinputs, houtputs⟩ := nodes_of_slot hs
  have honward (tags : Registry) :
      p.onward s.layer.kind s.layer.primary tags s.settings = p.behind s tags := by
    rw [onward, behind, h.top_eq, ← hinputs, ← houtputs]
  rw [honward] at hlayer
  refine ⟨hlayer, ?_, ?_, rfl⟩
  · simp [behind, h.length_eq]
  · simp [behind, top, houtputs]

/-- **A pass that stands behind some layers of a draft goes on by all the others.** -/
theorem completes_draft (h : Reaches (before ++ rest) before p) (hks : Legible (before ++ rest))
    (hroom : ((before ++ rest).length : Int) ≤ maxNodeIndex)
    (hslots : slotsFrom (before ++ rest) before.length rest = .ok slots) :
    ∃ mode, Completes {} p (declared slots rest)
      { p with
        slots := slots.reverse ++ p.slots
        tags := tagsFrom (before ++ rest) 0 (before ++ rest)
        mode } := by
  induction rest generalizing before p slots with
  | nil =>
    obtain rfl := Except.ok.inj hslots
    refine ⟨p.mode, completes_nil_iff.mpr ?_⟩
    rw [List.append_nil] at h ⊢
    rw [← h.tags_eq]
    rfl
  | cons k rest ih =>
    rw [slotsFrom_cons] at hslots
    obtain ⟨s, hs, hslots⟩ := bind_eq_ok_iff.mp hslots
    obtain ⟨others, hothers, hslots⟩ := bind_eq_ok_iff.mp hslots
    obtain rfl := pure_eq_ok_iff.mp hslots
    obtain ⟨hlayer, hreaches⟩ := h.completes_slot hks hroom hs
    rw [List.append_cons] at hlayer hreaches hks hroom hothers ⊢
    obtain ⟨mode, hrest⟩ := ih hreaches hks hroom (by rwa [List.length_append])
    have hreverse : (s :: others).reverse ++ p.slots = others.reverse ++ s :: p.slots := by simp
    refine ⟨mode, completes_append_iff.mpr ⟨_, hlayer, ?_⟩⟩
    rw [hreverse]
    exact hrest

end Reaches

end Pass

namespace Plan

open Pass

variable {m : Model} {nodes : List Node} {shape : Option Shape} {slots : List Slot}

/-- A new plan that is configured with a draft between the ends of a block has its layers, settings
and tags. -/
theorem configure_draft {ks : List Kept} {head : List Entry} (hks : Kept.Legible ks)
    (hroom : (ks.length : Int) ≤ maxNodeIndex) (hshape : ∀ s ∈ shape, s.InRange)
    (hhead : shapeEntries (shape.map Shape.numbers) = .ok head)
    (hslots : Kept.slots ks = .ok slots) :
    ({} : Plan).configure (.ofList
        (head ++ [⟨blockKey, blockStartWord⟩] ++ Kept.declared slots ks ++
          [⟨blockKey, blockEndWord⟩])) =
      { plan :=
          { outline :=
              { header :=
                  { nodeCount := if slots = [] then 0 else slots.length + 1
                    layerCount := slots.length
                    shape := shape.getD ⟨0, 0, 0⟩
                    finalized := true }
                layers := slots.map (·.layer) }
            tags := Kept.tags ks
            locals := slots.map (·.settings) } } := by
  have hp := completes_head hshape hhead
  have hreaches : Reaches ([] ++ ks) []
      { shape := shape.getD ⟨0, 0, 0⟩, updater := "sgd", mode := .blockStarted } := ⟨rfl, rfl, rfl⟩
  obtain ⟨mode, hq⟩ := hreaches.completes_draft hks hroom hslots
  rw [List.append_nil] at hq
  have hall : Completes {} (start {})
      (head ++ [⟨blockKey, blockStartWord⟩] ++ Kept.declared slots ks ++ [⟨blockKey, blockEndWord⟩])
      { slots := slots.reverse, tags := Kept.tags ks, shape := shape.getD ⟨0, 0, 0⟩,
        updater := "sgd", mode := .layerSeen } := by
    refine completes_append_iff.mpr ⟨_, completes_append_iff.mpr ⟨_, hp, hq⟩, ?_⟩
    exact completes_cons_iff.mpr ⟨_, .blockEnd (by decide), completes_nil_iff.mpr rfl⟩
  rw [configure_of_completes rfl hall, Pass.plan, Pass.outline]
  simp [Kept.countNodes_of_slots hslots]

/-- **A capture is faithful.** Let a well-formed model have a graph, with fewer than `2 ^ 31 - 1`
nodes that a kind stands for, and let the paths that take a tag be free of white space and be told
apart by their tags. A fresh capture of the model fails if the draft of its graph does, with the
same fault; otherwise it goes well, and a new plan that is configured with it has exactly the layers
of the draft, with their settings alone, and the tags of the modules that are called more than
once. -/
theorem configure_capture_of_graph (hm : m.WellFormed) (hgraph : m.graph = .ok nodes)
    (hplain : ∀ a ∈ m.taggedPaths, ∀ ch ∈ a.toList, isBlank ch = false)
    (hapart : ∀ a ∈ m.taggedPaths, ∀ b ∈ m.taggedPaths, tagOfPath a = tagOfPath b → a = b)
    (hshape : ∀ s ∈ shape, s.InRange) (hcount : (Kept.ofNodes nodes).length < 2 ^ 31 - 1) :
    let ks := Kept.ofNodes nodes
    let captured := ({} : Capturer).capture m (shape.map Shape.numbers)
    (∀ f, Kept.slots ks = .error f → captured.2 = some f) ∧
    ∀ slots, Kept.slots ks = .ok slots → slots.length = ks.length ∧ captured.2 = none ∧
      ({} : Plan).configure (.ofList captured.1.declarations) =
        { plan :=
            { outline :=
                { header :=
                    { nodeCount := if slots = [] then 0 else slots.length + 1
                      layerCount := slots.length
                      shape := shape.getD ⟨0, 0, 0⟩
                      finalized := true }
                  layers := slots.map (·.layer) }
              tags := Kept.tags ks
              updater := "sgd"
              globals := []
              locals := slots.map (·.settings) } } := by
  have hnodes : m.capturedNodes = nodes := by
    unfold Model.capturedNodes
    rw [hgraph]
  have hpaths : m.taggedPaths = nodes.filterMap Node.taggedPath? := by
    rw [Model.taggedPaths, hnodes]
  have hcoherent : Coherent ([] ++ nodes) := hm.coherent_of_graph hgraph
  have hlegible : Kept.Legible (Kept.ofNodes nodes) := by
    rw [hpaths] at hapart
    refine hcoherent.legible (fun a ha => ?_) hapart
    rw [List.nil_append, ← hpaths] at ha
    exact ⟨hm.ne_empty_of_mem_taggedPaths ha, hplain a ha⟩
  have hroom : ((Kept.ofNodes nodes).length : Int) ≤ maxNodeIndex := by
    simp only [maxNodeIndex]
    omega
  obtain ⟨head, hhead⟩ : ∃ head, shapeEntries (shape.map Shape.numbers) = .ok head := by
    cases shape with
    | none => exact ⟨_, rfl⟩
    | some s => exact ⟨_, rfl⟩
  have hdeclares :
      Declares (Kept.ofNodes nodes) (Kept.slots (Kept.ofNodes nodes)) (visits [] nodes) :=
    declares_visits hcoherent .nil
  rw [Capturer.capture_eq, hhead, hnodes]
  cases hslots : Kept.slots (Kept.ofNodes nodes) with
  | error fault =>
    rw [hslots] at hdeclares
    have hfault : Visit.fault (visits [] nodes) = some fault := hdeclares
    simp only [hfault, hslots]
    exact ⟨fun f hf => by rw [Except.error.inj hf], fun slots hs => by cases hs⟩
  | ok slots =>
    rw [hslots] at hdeclares
    obtain ⟨hfault, hdeclared⟩ := hdeclares
    simp only [hfault, hdeclared, hslots, List.nil_append]
    refine ⟨fun f hf => (by cases hf), fun slots' hs => ?_⟩
    obtain rfl := Except.ok.inj hs
    exact ⟨Kept.length_of_slotsFrom hslots, trivial,
      configure_draft hlegible hroom hshape hhead hslots⟩

theorem wellFormed_repeating : repeating.WellFormed where
  names := by decide
  siblings := by decide
  objects := by
    let fc : Model := .leaf 2 (.linear true (.whole 4) true)
    let body : Model := .composite 1 .inOrder [("0", fc), ("1", fc)]
    let head : Model := .leaf 3 (.linear true (.whole 2) false)
    -- the identity of a module is its place among the different ones
    have hplace : ∀ x ∈ [repeating, body, fc, fc, head],
        [repeating, body, fc, head][x.id]? = some x := by
      simp [repeating, Model.id, body, fc, head]
    intro x hx y hy hid
    have hsame := hplace x hx
    rw [hid, hplace y hy] at hsame
    exact (Option.some.inj hsame).symm

/-- The layers for that model. -/
def repeatingSlots : List Slot :=
  [{ layer := ⟨.fullc, [0], [1], -1⟩, settings := [⟨"nhidden", "4"⟩] },
    { layer := ⟨.shared, [1], [2], 0⟩ },
    { layer := ⟨.fullc, [2], [3], -1⟩, settings := [⟨"nhidden", "2"⟩, ⟨"no_bias", "1"⟩] },
    { layer := ⟨.relu, [3], [4], -1⟩ }]

/-- A plan that is configured with its capture has these layers, and a tag for the map that is run
twice. -/
theorem configure_capture_repeating :
    repeating.WellFormed ∧ repeating.taggedPaths = ["body.0", "body.0"] ∧
      (({} : Plan).configure (.ofList
          (({} : Capturer).capture repeating (some (Shape.numbers ⟨1, 28, 28⟩))).1.declarations)).plan =
        { outline :=
            { header := { nodeCount := 5, layerCount := 4, shape := ⟨1, 28, 28⟩, finalized := true }
              layers := repeatingSlots.map (·.layer) }
          tags := [("body_0", 0)]
          locals := repeatingSlots.map (·.settings) } := by
  obtain ⟨nodes, hgraph, hpaths, hslots, htags, hcount⟩ : ∃ nodes, repeating.graph = .ok nodes ∧
      nodes.filterMap Node.taggedPath? = ["body.0", "body.0"] ∧
      Kept.slots (Kept.ofNodes nodes) = .ok repeatingSlots ∧
      Kept.tags (Kept.ofNodes nodes) = [("body_0", 0)] ∧ (Kept.ofNodes nodes).length = 4 :=
    ⟨_, by rw [Model.graph, remarkedGraph_repeating], rfl, rfl, rfl, rfl⟩
  have hpaths : repeating.taggedPaths = ["body.0", "body.0"] := by
    unfold Model.taggedPaths Model.capturedNodes
    rw [hgraph]
    exact hpaths
  have hshape : ∀ s ∈ some (⟨1, 28, 28⟩ : Shape), s.InRange := by
    rintro s ⟨⟩
    exact ⟨by decide, by decide, by decide⟩
  have hwords : ∀ a ∈ repeating.taggedPaths, IsWord a := by
    rw [hpaths]
    decide
  have hapart : ∀ a ∈ repeating.taggedPaths, ∀ b ∈ repeating.taggedPaths,
      tagOfPath a = tagOfPath b → a = b := by
    rw [hpaths]
    decide
  obtain ⟨-, hok⟩ := configure_capture_of_graph wellFormed_repeating hgraph
    (fun a ha => (hwords a ha).2) hapart hshape (by rw [hcount]; decide)
  obtain ⟨-, -, hconfigure⟩ := hok repeatingSlots hslots
  rw [htags, Option.map_some] at hconfigure
  refine ⟨wellFormed_repeating, hpaths, ?_⟩
  rw [hconfigure]
  rfl

end Plan

end NetPlan
