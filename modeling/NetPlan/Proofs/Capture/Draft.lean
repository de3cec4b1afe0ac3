import NetPlan.Plan.Pass
import NetPlan.Proofs.Capture.Node
import NetPlan.Proofs.Model.Operator

/-!
# Drafts

The nodes of a graph that a kind stands for are **kept**, and each of them gives a layer. The
**draft** of a graph says which one (`Kept.slot`): the layer at a position reads the node of this
number and writes the next one. It is shared if its module is called before, and then it points at
the first call; otherwise it has the settings of its module. A draft refers to modules by their
identity, and knows of no tags but those that first calls take (`Kept.tagAt?`).

A capture goes by paths instead. In a graph these agree (`Coherent`), so that what the visits of a
graph declare is the draft, layer by layer, or they fail where the draft does
(`Capture.declares_visits`).
-/

namespace NetPlan

open Capture

/-- The kind of layer that stands for a node, if there is one. -/
def Node.kind? : Node → Option Kind
  | .module _ m _ => m.kind?
  | .function f => f.kind?
  | .method _ => none

/-- The settings that a layer needs to stand for a node. -/
def Node.settings : Node → Except Fault (List Entry)
  | .module _ m _ => m.settings
  | .function _ | .method _ => .ok []

/-- The tag that the path of a node gives, if the node can take one. -/
def Node.tag? (node : Node) : Option String :=
  node.taggedPath?.map tagOfPath

/-- A node with the kind of layer that stands for it. -/
structure Kept where
  node : Node
  kind : Kind

theorem Node.isShared_of_kind? {node : Node} {kind : Kind} (h : node.kind? = some kind) :
    kind.isShared = false := by
  cases node with
  | module target m reused => exact Model.isShared_of_kind? h
  | function f => exact Function.isShared_of_kind? h
  | method name => cases h

theorem Node.role_of_settings {node : Node} {es : List Entry} (h : node.settings = .ok es) :
    ∀ e ∈ es, e.role = .setting := by
  cases node with
  | module target m reused => exact Model.role_of_settings h
  | function f | method name =>
    obtain rfl := Except.ok.inj h
    exact List.forall_mem_nil _

theorem Node.eq_module_of_object? {node : Node} {id : Nat} (h : node.object? = some id) :
    ∃ a m reused, node = .module a m reused ∧ m.id = id := by
  cases node with
  | module a m reused => exact ⟨a, m, reused, rfl, Option.some.inj h⟩
  | function f | method name => cases h

/-- Only a node that a kind stands for can take a tag. -/
theorem isSome_kind?_of_taggedPath? {node : Node} {a : String} (h : node.taggedPath? = some a) :
    node.kind?.isSome := by
  unfold Node.taggedPath? at h
  split at h
  · split at h
    · assumption
    · cases h
  all_goals cases h

namespace Kept

/-- A node with its kind, if there is one. -/
def ofNode? (node : Node) : Option Kept :=
  node.kind?.map fun kind => { node, kind }

/-- The nodes that a kind stands for. -/
def ofNodes (nodes : List Node) : List Kept :=
  nodes.filterMap ofNode?

/-- The position of the first call of the module of a node. -/
def firstCall? (ks : List Kept) (node : Node) : Option Nat :=
  node.object?.bind fun id => ks.findIdx? (·.node.object? = some id)

/-- The position of the first call of the module of a node at some position, if it is an earlier
one. -/
def recalled? (ks : List Kept) (i : Nat) (k : Kept) : Option Nat :=
  (firstCall? ks k.node).filter (· < i)

/-- The layer for a node at some position, with its settings. -/
def slot (ks : List Kept) (i : Nat) (k : Kept) : Except Fault Slot :=
  match recalled? ks i k with
  | some first =>
    .ok { layer := { kind := .shared, inputs := [i], outputs := [i + 1], primary := first } }
  | none =>
    k.node.settings.map fun settings =>
      { layer := { kind := k.kind, inputs := [i], outputs := [i + 1] }, settings }

/-- The tag that is taken by a node at some position, with the position: that of its path, at the
first call. -/
def tagAt? (ks : List Kept) (i : Nat) (k : Kept) : Option (String × Int) :=
  if recalled? ks i k = none then k.node.tag?.map (·, (i : Int)) else none

/-- The layers for some nodes that begin at some position. -/
def slotsFrom (ks : List Kept) (i : Nat) (rest : List Kept) : Except Fault (List Slot) :=
  (rest.zipIdx i).mapM fun (k, i) => slot ks i k

/-- The tags that are taken by some nodes that begin at some position. -/
def tagsFrom (ks : List Kept) (i : Nat) (rest : List Kept) : Registry :=
  (rest.zipIdx i).filterMap fun (k, i) => tagAt? ks i k

/-- The layers for the nodes of a graph. -/
def slots (ks : List Kept) : Except Fault (List Slot) :=
  slotsFrom ks 0 ks

/-- The tags that are taken by the nodes of a graph. -/
def tags (ks : List Kept) : Registry :=
  tagsFrom ks 0 ks

/-- The declarations of the layers for some nodes. -/
def declared (slots : List Slot) (ks : List Kept) : List Entry :=
  (List.zipWith (fun s k => onwardEntry s.layer.kind (k.node.tag?.getD "") :: s.settings) slots
    ks).flatten

variable {ks before after : List Kept} {k : Kept} {i : Nat} {node : Node} {nodes : List Node}

/-! ### Nodes that are kept -/

/-- The nodes that are kept are those with a kind. -/
theorem mem_ofNodes_iff : k ∈ ofNodes nodes ↔ k.node ∈ nodes ∧ k.node.kind? = some k.kind := by
  simp only [ofNodes, List.mem_filterMap, ofNode?, Option.map_eq_some_iff]
  constructor
  · rintro ⟨node, hnode, kind, hkind, rfl⟩
    exact ⟨hnode, hkind⟩
  · rintro ⟨hnode, hkind⟩
    exact ⟨k.node, hnode, k.kind, hkind, rfl⟩

theorem ofNodes_append (nodes nodes' : List Node) :
    ofNodes (nodes ++ nodes') = ofNodes nodes ++ ofNodes nodes' :=
  List.filterMap_append

theorem ofNodes_cons_none (hkind : node.kind? = none) :
    ofNodes (node :: nodes) = ofNodes nodes := by
  rw [ofNodes, List.filterMap_cons_none (by rw [ofNode?, hkind, Option.map_none])]
  rfl

theorem ofNodes_cons_some {kind : Kind} (hkind : node.kind? = some kind) :
    ofNodes (node :: nodes) = ⟨node, kind⟩ :: ofNodes nodes := by
  rw [ofNodes, List.filterMap_cons_some (by rw [ofNode?, hkind, Option.map_some])]
  rfl

/-- A node is recalled if its module is called before it. -/
theorem recalled?_append (before : List Kept) (k : Kept) (after : List Kept) :
    recalled? (before ++ k :: after) before.length k =
      k.node.object?.bind fun id => before.findIdx? (·.node.object? = some id) := by
  unfold recalled? firstCall?
  cases k.node.object? with
  | none => rfl
  | some id =>
    rw [Option.bind_some, Option.bind_some, List.findIdx?_append]
    cases hfirst : before.findIdx? (·.node.object? = some id) with
    | some first =>
      have hlt := (List.findIdx?_eq_some_iff_findIdx_eq.mp hfirst).1
      simp [hlt]
    | none =>
      rw [Option.none_or, Option.filter_map]
      simp

/-- Among kept nodes as well, a node is recalled if its module is called before it. -/
theorem recalled?_ofNodes {done rest : List Node} {kind : Kind} (hkind : node.kind? = some kind) :
    recalled? (ofNodes (done ++ node :: rest)) (ofNodes done).length ⟨node, kind⟩ =
      node.object?.bind fun id => (ofNodes done).findIdx? (·.node.object? = some id) := by
  rw [ofNodes_append, ofNodes_cons_some hkind]
  exact recalled?_append ..

/-! ### Layers for nodes -/

/-- The layer at a position reads the node of this number and writes the next one. -/
theorem nodes_of_slot {s : Slot} (h : slot ks i k = .ok s) :
    s.layer.inputs = [(i : Int)] ∧ s.layer.outputs = [(i : Int) + 1] := by
  unfold slot at h
  split at h
  · obtain rfl := Except.ok.inj h
    exact ⟨rfl, rfl⟩
  · obtain ⟨settings, -, rfl⟩ := map_eq_ok_iff.mp h
    exact ⟨rfl, rfl⟩

/-- A shared layer has no settings of its own. -/
theorem settings_of_slot {s : Slot} (hkind : k.node.kind? = some k.kind) (h : slot ks i k = .ok s) :
    s.settings = [] ∨ s.layer.kind.isShared = false ∧ ∀ e ∈ s.settings, e.role = .setting := by
  unfold slot at h
  split at h
  · obtain rfl := Except.ok.inj h
    exact .inl rfl
  · obtain ⟨settings, hsettings, rfl⟩ := map_eq_ok_iff.mp h
    exact .inr ⟨Node.isShared_of_kind? hkind, Node.role_of_settings hsettings⟩

/-! ### Drafts, one node after another -/

theorem slotsFrom_cons {rest : List Kept} :
    slotsFrom ks i (k :: rest) = do
      let s ← slot ks i k
      let slots ← slotsFrom ks (i + 1) rest
      return s :: slots := by
  rw [slotsFrom, List.zipIdx_cons, List.mapM_cons]
  rfl

/-- The nodes that some layers of a draft touch end behind the last one. -/
theorem foldl_nodes_of_slotsFrom {rest : List Kept} {slots : List Slot}
    (h : slotsFrom ks i rest = .ok slots) {n : Int} (hn : n ≤ i + 1) :
    ((slots.map (·.layer)).flatMap Layer.nodes).foldl (fun n i => max (i + 1) n) n =
      if slots = [] then n else i + slots.length + 1 := by
  induction rest generalizing i n slots with
  | nil =>
    obtain rfl := Except.ok.inj h
    rfl
  | cons k rest ih =>
    rw [slotsFrom_cons] at h
    obtain ⟨s, hs, h⟩ := bind_eq_ok_iff.mp h
    obtain ⟨others, hothers, h⟩ := bind_eq_ok_iff.mp h
    obtain rfl := pure_eq_ok_iff.mp h
    obtain ⟨hinputs, houtputs⟩ := nodes_of_slot hs
    have hmax : max ((i : Int) + 1 + 1) (max ((i : Int) + 1) n) = (i + 1 : Nat) + 1 := by omega
    rw [List.map_cons, List.flatMap_cons, List.foldl_append, Layer.nodes, hinputs, houtputs]
    change List.foldl _ (max ((i : Int) + 1 + 1) (max ((i : Int) + 1) n)) _ = _
    rw [hmax, ih hothers (Int.le_refl _)]
    cases others with
    | nil => simp
    | cons other others =>
      simp only [List.cons_ne_nil, if_false, List.length_cons]
      omega

/-- A draft has one node more than layers, if it has any. -/
theorem countNodes_of_slots {slots : List Slot} (h : Kept.slots ks = .ok slots) :
    countNodes (slots.map (·.layer)) = if slots = [] then 0 else (slots.length : Int) + 1 := by
  have hfold := foldl_nodes_of_slotsFrom h (n := 0) (by decide)
  rwa [Int.natCast_zero, Int.zero_add] at hfold

/-- A draft has one layer for each node that is kept. -/
theorem length_of_slotsFrom {rest : List Kept} {slots : List Slot}
    (h : slotsFrom ks i rest = .ok slots) : slots.length = rest.length := by
  induction rest generalizing i slots with
  | nil =>
    obtain rfl := Except.ok.inj h
    rfl
  | cons k rest ih =>
    rw [slotsFrom_cons] at h
    obtain ⟨s, -, h⟩ := bind_eq_ok_iff.mp h
    obtain ⟨others, hothers, h⟩ := bind_eq_ok_iff.mp h
    obtain rfl := pure_eq_ok_iff.mp h
    rw [List.length_cons, List.length_cons, ih hothers]

theorem tagsFrom_cons {rest : List Kept} :
    tagsFrom ks i (k :: rest) = (tagAt? ks i k).toList ++ tagsFrom ks (i + 1) rest := by
  rw [tagsFrom, List.zipIdx_cons, List.filterMap_cons]
  cases hentry : tagAt? ks i k <;> simp [hentry, tagsFrom]

end Kept

variable {m : Model} {nodes done rest : List Node} {node : Node} {reused : Bool}

/-! ### Tags and first calls -/

namespace Coherent

variable {a : String} {x : Model} (h : Coherent (done ++ .module a x reused :: rest))
include h

/-- A module whose path has taken a tag is called again, and is marked as reused. -/
theorem exists_recalled (ha : a ∈ done.filterMap Node.taggedPath?) :
    ∃ kind first, Node.kind? (.module a x reused) = some kind ∧
      Node.taggedPath? (.module a x reused) = some a ∧
      Kept.recalled? (Kept.ofNodes (done ++ .module a x reused :: rest)) (Kept.ofNodes done).length
        ⟨.module a x reused, kind⟩ = some first := by
  obtain ⟨node, hdone, htagged⟩ := List.mem_filterMap.mp ha
  obtain ⟨y, rfl⟩ := Node.eq_module_of_taggedPath? htagged
  obtain rfl := h.model_eq (List.mem_append_right _ List.mem_cons_self)
      (List.mem_append_left _ hdone)
  obtain rfl := h.reused_of_mem hdone
  obtain ⟨kind, hkind⟩ := Option.isSome_iff_exists.mp (isSome_kind?_of_taggedPath? htagged)
  obtain ⟨first, hfirst⟩ : ∃ first, (Kept.ofNodes done).findIdx?
      (·.node.object? = some x.id) = some first := by
    rw [← Option.isSome_iff_exists, List.findIdx?_isSome, List.any_eq_true]
    exact ⟨⟨_, kind⟩, Kept.mem_ofNodes_iff.mpr ⟨hdone, hkind⟩, by simp [Node.object?]⟩
  exact ⟨kind, first, hkind, htagged, (Kept.recalled?_ofNodes hkind).trans hfirst⟩

/-- A module whose path has not taken a tag is called for the first time, if a kind stands for
it. -/
theorem recalled?_eq_none {kind : Kind} (ha : a ∉ done.filterMap Node.taggedPath?)
    (hkind : Node.kind? (.module a x reused) = some kind) :
    Kept.recalled? (Kept.ofNodes (done ++ .module a x reused :: rest)) (Kept.ofNodes done).length
      ⟨.module a x reused, kind⟩ = none := by
  refine (Kept.recalled?_ofNodes hkind).trans (List.findIdx?_eq_none_iff.mpr fun k hk => ?_)
  obtain ⟨hdone, -⟩ := Kept.mem_ofNodes_iff.mp hk
  rw [decide_eq_false_iff_not]
  intro hobject
  obtain ⟨b, y, reused', hnode, hid⟩ := Node.eq_module_of_object? hobject
  rw [hnode] at hdone
  -- an earlier call of the module would have taken the tag
  obtain ⟨rfl, rfl, rfl⟩ := Node.module.inj (h.eq_of_id_eq (List.mem_append_left _ hdone)
    (List.mem_append_right _ List.mem_cons_self) hid)
  obtain rfl := h.reused_of_mem hdone
  have htagged : Node.taggedPath? (.module b y true) = some b :=
    if_pos (Option.isSome_of_eq_some hkind)
  exact ha (List.mem_filterMap.mpr ⟨_, hdone, htagged⟩)

end Coherent

/-! ### Visits of a graph -/

namespace Capture

variable {tags : List (String × String)} {es : List Entry} {ks : List Kept} {i : Nat} {v : Visit}

/-- The visits of a node at some position, as the draft has it: the node is passed over, it is
called again, its layer cannot be written, or it gets a layer of its own. -/
inductive Stands (ks : List Kept) (i : Nat) (node : Node) : Visit → Prop
  | skipped (hkind : node.kind? = none) (notice? : Option Notice) :
      Stands ks i node { node, notice? }
  | again {kind : Kind} {first : Nat} {tag : String} (hkind : node.kind? = some kind)
      (hrecalled : Kept.recalled? ks i ⟨node, kind⟩ = some first) (htag : node.tag? = some tag) :
      Stands ks i node { node, layer? := some (.shared, tag) }
  | failed {kind : Kind} {fault : Fault} (hkind : node.kind? = some kind)
      (hrecalled : Kept.recalled? ks i ⟨node, kind⟩ = none)
      (hsettings : node.settings = .error fault) (taken? : Option (String × String)) :
      Stands ks i node { node, taken?, fault? := some fault }
  | own {kind : Kind} {settings : List Entry} (hkind : node.kind? = some kind)
      (hrecalled : Kept.recalled? ks i ⟨node, kind⟩ = none)
      (hsettings : node.settings = .ok settings) (taken? : Option (String × String)) :
      Stands ks i node
        { node, layer? := some (kind, node.tag?.getD ""), settings, taken? }

/-- A module whose path has no tag is visited as the draft has it, if no earlier call is of this
module. -/
theorem stands_visitNew {target : String}
    (hrecalled : ∀ kind, Node.kind? (.module target m reused) = some kind →
      Kept.recalled? ks i ⟨.module target m reused, kind⟩ = none) :
    Stands ks i (.module target m reused) (visitNew target m reused) := by
  have hkind : Node.kind? (.module target m reused) = m.kind? := rfl
  unfold visitNew
  cases hmodel : m.kind? with
  | none => exact .skipped (hkind.trans hmodel) _
  | some kind =>
    have hnone := hrecalled kind (hkind.trans hmodel)
    have htag : (if reused then tagOfPath target else "") =
        (Node.tag? (.module target m reused)).getD "" := by
      cases reused <;> simp [Node.tag?, Node.taggedPath?, hmodel]
    cases hsettings : m.settings with
    | error fault => exact .failed (hkind.trans hmodel) hnone hsettings _
    | ok settings =>
      dsimp only
      rw [htag]
      exact .own (hkind.trans hmodel) hnone hsettings _

/-- In a coherent graph, what comes of a node is what the draft says. -/
theorem stands_visit (h : Coherent (done ++ node :: rest)) (hwrites : Writes done es tags) :
    Stands (Kept.ofNodes (done ++ node :: rest)) (Kept.ofNodes done).length node
      (visit tags node) := by
  cases node with
  | function f =>
    have hkind : Node.kind? (.function f) = f.kind? := rfl
    simp only [visit]
    cases hfunction : f.kind? with
    | none => exact .skipped (hkind.trans hfunction) _
    | some kind =>
      have hown := hkind.trans hfunction
      exact .own hown (Kept.recalled?_ofNodes hown) rfl none
  | method name => exact .skipped rfl _
  | module target x reused =>
    rcases visit_module_cases tags target x reused with ⟨tag, htaken, hvisit⟩ | ⟨hfresh, hvisit⟩
    · obtain ⟨a, ha, heq⟩ := (hwrites.mem_tags_iff _).mp htaken
      obtain ⟨rfl, rfl⟩ := Prod.mk.inj heq
      obtain ⟨kind, first, hkind, htagged, hfirst⟩ := h.exists_recalled ha
      rw [hvisit]
      exact .again hkind hfirst (by rw [Node.tag?, htagged]; rfl)
    · have htarget : target ∉ done.filterMap Node.taggedPath? := fun ha =>
        hfresh (List.mem_map_of_mem ((hwrites.mem_tags_iff _).mpr ⟨target, ha, rfl⟩))
      rw [hvisit]
      exact stands_visitNew fun kind hkind => h.recalled?_eq_none htarget hkind

/-- Visits declare the layers of a draft of some nodes, or fail with the fault of the draft. -/
def Declares (ks : List Kept) (draft : Except Fault (List Slot)) (vs : List Visit) : Prop :=
  match draft with
  | .error fault => Visit.fault vs = some fault
  | .ok slots => Visit.fault vs = none ∧ vs.flatMap Visit.declared = Kept.declared slots ks

namespace Declares

variable {draft : Except Fault (List Slot)} {vs : List Visit} {s : Slot} {k : Kept}
  (h : Declares ks draft vs) (hv : v.fault? = none)
include h hv

/-- A visit that declares nothing can be left out. -/
theorem skip (hdeclared : v.declared = []) : Declares ks draft (v :: vs) := by
  unfold Declares at h ⊢
  rwa [Visit.fault_cons_of_eq_none hv, List.flatMap_cons, hdeclared, List.nil_append]

/-- A visit that declares the first layer of a draft is followed by visits for the others. -/
theorem cons (hdeclared : v.declared =
      onwardEntry s.layer.kind (k.node.tag?.getD "") :: s.settings) :
    Declares (k :: ks) (do let slots ← draft; return s :: slots) (v :: vs) := by
  cases draft with
  | error fault => exact (Visit.fault_cons_of_eq_none hv vs).trans h
  | ok slots =>
    obtain ⟨hfault, hrest⟩ := h
    refine ⟨(Visit.fault_cons_of_eq_none hv vs).trans hfault, ?_⟩
    rw [List.flatMap_cons, hdeclared, hrest]
    rfl

end Declares

/-- **What the nodes of a coherent graph declare is its draft.** So it is for the nodes behind some
others, given the tags that these have taken. -/
theorem declares_visits (h : Coherent (done ++ rest)) (hwrites : Writes done es tags) :
    Declares (Kept.ofNodes rest)
      (Kept.slotsFrom (Kept.ofNodes (done ++ rest)) (Kept.ofNodes done).length (Kept.ofNodes rest))
      (visits tags rest) := by
  induction rest generalizing done es tags with
  | nil => exact ⟨rfl, rfl⟩
  | cons node rest ih =>
    have hstands := stands_visit h hwrites
    have hcoherent : Coherent ((done ++ [node]) ++ rest) := by rwa [List.append_assoc]
    have hrest (hfault : (visit tags node).fault? = none) :=
      ih hcoherent (hwrites.concat (adds_of_visit hfault))
    simp only [List.append_assoc, List.singleton_append, Kept.ofNodes_append done [node],
      List.length_append] at hrest
    generalize Kept.ofNodes (done ++ node :: rest) = ks at hstands hrest ⊢
    rw [visits]
    generalize visit tags node = v at hstands hrest ⊢
    cases hstands with
    | skipped hkind notice? =>
      rw [Kept.ofNodes_cons_none hkind] at hrest ⊢
      exact (hrest rfl).skip rfl rfl
    | again hkind hrecalled htag =>
      rw [Kept.ofNodes_cons_some hkind] at hrest ⊢
      rw [Kept.slotsFrom_cons, Kept.slot, hrecalled]
      exact (hrest rfl).cons rfl (by rw [htag]; rfl)
    | failed hkind hrecalled hsettings taken? =>
      rw [Kept.ofNodes_cons_some hkind, Kept.slotsFrom_cons, Kept.slot, hrecalled, hsettings]
      exact rfl
    | own hkind hrecalled hsettings taken? =>
      rw [Kept.ofNodes_cons_some hkind] at hrest ⊢
      rw [Kept.slotsFrom_cons, Kept.slot, hrecalled, hsettings]
      exact (hrest rfl).cons rfl rfl

end Capture

end NetPlan
