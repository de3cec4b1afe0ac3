import NetPlan.Proofs.Capture.Record
import NetPlan.Proofs.Declaration.Writing
import NetPlan.Proofs.Model.Operator
import NetPlan.Proofs.Plan.Failure

/-!
# Passes over what a capture writes

Against an empty outline, a layer behind the previous one is taken if its tag can be resolved and
there is room for it (`Pass.completes_layer`), and settings behind it are its own.

`Pass.Meets p es tags` says what becomes of a pass over the declarations `es` of a capture with the
tags `tags`: it takes them all and has then the same tags, or it stops where two paths have given
one tag. What a node adds keeps this (`Pass.Meets.adds`), so it holds of whatever some nodes write
(`Pass.meets_of_writes`).
-/

namespace NetPlan

open Text

/-! ### Layers behind the previous one -/

theorem Link.read_onward {top : Int} (htop : top + 1 ≤ maxNodeIndex) :
    read (layerLead ++ "+1]") top = .ok (top, top + 1) := by
  have hparse : parse? (layerLead ++ "+1]") = some (.onward ['1']) := by decide
  have hends : (onward ['1']).ends top = .ok (top, top + 1) := rfl
  have hrange : ¬maxNodeIndex < max top (top + 1) := by omega
  rw [read, hparse]
  exact bind_eq_ok_iff.mpr ⟨_, hends, if_neg hrange⟩

theorem Designation.read_onwardEntry (kind : Kind) {tag : String} (htag : tag = "" ∨ IsWord tag) :
    read (onwardEntry kind tag).value = .ok { kindName := kind.name, tag } := by
  rcases htag with rfl | htag
  · exact read_name kind.name_ne_empty kind.isNameChar_name
  · rw [onwardEntry, if_neg htag.1]
    exact read_name_tag kind.name_ne_empty kind.isNameChar_name htag

theorem role_onwardEntry (kind : Kind) (tag : String) : (onwardEntry kind tag).role = .layer :=
  Entry.role_eq_layer_iff.mpr (show isLayerKey (layerLead ++ "+1]") = true by decide)

/-- A declaration of a layer behind the previous one tells its kind and its tag. -/
theorem onwardEntry_inj {kind kind' : Kind} {tag tag' : String} :
    onwardEntry kind tag = onwardEntry kind' tag' ↔ kind = kind' ∧ tag = tag' := by
  refine ⟨fun h => ?_, fun ⟨hkind, htag⟩ => by rw [hkind, htag]⟩
  have htext : Designation.text ⟨kind.name, tag⟩ = Designation.text ⟨kind'.name, tag'⟩ :=
    congrArg Entry.value h
  have hsame := Designation.eq_of_text_eq kind.isNameChar_name kind'.isNameChar_name htext
  exact ⟨Kind.eq_of_name_eq (congrArg Designation.kindName hsame), congrArg Designation.tag hsame⟩

/-- A declaration of a layer behind the previous one comes down to its tag. -/
theorem Declaration.read_onwardEntry {kind : Kind} {tag : String} {top index : Int}
    {tags : Registry} (htag : tag = "" ∨ IsWord tag) (htop : top + 1 ≤ maxNodeIndex) :
    read (onwardEntry kind tag) top index tags =
      (resolve kind tag index tags).map fun found =>
        ({ kind, inputs := [top], outputs := [top + 1], primary := found.1 }, found.2) := by
  have hlink : Link.read (onwardEntry kind tag).key top = .ok (top, top + 1) :=
    Link.read_onward htop
  rw [read, hlink, Designation.read_onwardEntry kind htag]
  change (Kind.named kind.name >>= _) = _
  rw [Kind.named_name]
  change (resolve kind tag index tags >>= _) = _
  cases resolve kind tag index tags <;> rfl

namespace Pass

variable {p q : Pass} {es : List Entry} {kind : Kind} {tag : String} {primary : Int}
  {tags : Registry} {settings : List Entry}

/-- The pass behind a layer with some settings that follows the previous layer. -/
def onward (p : Pass) (kind : Kind) (primary : Int) (tags : Registry) (settings : List Entry) :
    Pass :=
  { p with
    slots :=
      { layer := { kind, inputs := [p.top], outputs := [p.top + 1], primary }, settings } :: p.slots
    tags
    mode := .layerSeen }

/-- Against an empty outline, a layer that follows the previous one is taken if its tag can be. -/
theorem advances_onwardEntry (htag : tag = "" ∨ IsWord tag) (htop : p.top + 1 ≤ maxNodeIndex)
    (hresolve : Declaration.resolve kind tag p.slots.length p.tags = .ok (primary, tags)) :
    Advances {} p (onwardEntry kind tag) (p.onward kind primary tags []) := by
  refine .layer (role_onwardEntry kind tag) ?_ (Outline.admit_eq_ok_iff.mpr rfl)
  rw [Declaration.read_onwardEntry htag htop, hresolve]
  rfl

/-- If the tag is turned down, so is the layer. -/
theorem step_onwardEntry_eq_error {f : Fault} (htag : tag = "" ∨ IsWord tag)
    (htop : p.top + 1 ≤ maxNodeIndex)
    (hresolve : Declaration.resolve kind tag p.slots.length p.tags = .error f) :
    step {} p (onwardEntry kind tag) = .error f := by
  simp only [step, role_onwardEntry]
  refine bind_eq_error_iff.mpr (.inl ?_)
  rw [Declaration.read_onwardEntry htag htop, hresolve]
  rfl

/-- Settings behind a layer that is not shared are its own. -/
theorem completes_settings (hkind : kind.isShared = false)
    (hsettings : ∀ e ∈ es, e.role = .setting) :
    Completes {} (p.onward kind primary tags settings) es
      (p.onward kind primary tags (settings ++ es)) := by
  induction es generalizing settings with
  | nil => simp
  | cons e es ih =>
    obtain ⟨he, hes⟩ := List.forall_mem_cons.mp hsettings
    refine completes_cons_iff.mpr ⟨_, .ownSetting he rfl rfl hkind, ?_⟩
    have hrest : Completes {} (p.onward kind primary tags (settings ++ [e])) es _ := ih hes
    rwa [List.append_assoc] at hrest

/-- A layer is taken with its settings. -/
theorem completes_layer (htag : tag = "" ∨ IsWord tag) (htop : p.top + 1 ≤ maxNodeIndex)
    (hresolve : Declaration.resolve kind tag p.slots.length p.tags = .ok (primary, tags))
    (hsettings : settings = [] ∨ kind.isShared = false ∧ ∀ e ∈ settings, e.role = .setting) :
    Completes {} p (onwardEntry kind tag :: settings) (p.onward kind primary tags settings) := by
  refine completes_cons_iff.mpr ⟨_, advances_onwardEntry htag htop hresolve, ?_⟩
  obtain rfl | ⟨hkind, hsettings⟩ := hsettings
  · exact completes_nil_iff.mpr rfl
  · exact completes_settings hkind hsettings

/-! ### What a capture writes -/

/-- A pass that had no layers stands behind the declarations of a capture with some tags: it has
taken them all, has these tags, each once, and as many nodes as layers. -/
structure Follows (p : Pass) (es : List Entry) (written : List (String × String)) (q : Pass) :
    Prop where
  start : p.slots = []
  completes : Completes {} p es q
  tags_eq : q.tags.map (·.1) = written.map (·.2)
  nodup : (written.map (·.2)).Nodup
  top_eq : q.top = q.slots.length

/-- What becomes of a pass over the declarations of a capture with some tags: it takes them all, or
it stops where two paths have given the same tag. -/
inductive Meets (p : Pass) (es : List Entry) (written : List (String × String)) : Prop
  | taken {q : Pass} (hfollows : p.Follows es written q)
  | stopped {a b tag : String} (ha : (a, tag) ∈ written) (hb : (b, tag) ∈ written) (hne : a ≠ b)
      (hstop : (run {} p es).2 = some (.duplicateTag tag))

namespace Follows

variable {written new : List (String × String)} (h : p.Follows es written q)
  (hroom : ((es ++ onwardEntry kind tag :: settings).countP (·.role = .layer) : Int) ≤ maxNodeIndex)
include h

theorem mem_tags {a : String} (ha : (a, tag) ∈ written) : tag ∈ q.tags.map (·.1) :=
  h.tags_eq ▸ List.mem_map_of_mem ha

include hroom

/-- If there is room for all layers, there is room for the next one. -/
theorem top_succ_le : q.top + 1 ≤ maxNodeIndex := by
  have hlength : q.slots.length = es.countP (·.role = .layer) := by
    simpa [h.start] using h.completes.length_layers
  rw [List.countP_append, List.countP_cons_of_pos (by simp [role_onwardEntry])] at hroom
  rw [h.top_eq, hlength]
  omega

/-- A layer whose tag can be resolved is taken with its settings. -/
theorem layer (htag : tag = "" ∨ IsWord tag)
    (hresolve : Declaration.resolve kind tag q.slots.length q.tags = .ok (primary, tags))
    (hsettings : settings = [] ∨ kind.isShared = false ∧ ∀ e ∈ settings, e.role = .setting)
    (htags : tags.map (·.1) = new.map (·.2)) (hnodup : (new.map (·.2)).Nodup) :
    p.Follows (es ++ onwardEntry kind tag :: settings) new
      (q.onward kind primary tags settings) where
  start := h.start
  completes := completes_append_iff.mpr
    ⟨q, h.completes, completes_layer htag (h.top_succ_le hroom) hresolve hsettings⟩
  tags_eq := htags
  nodup := hnodup
  top_eq := by
    change q.top + 1 = ((q.slots.length + 1 : Nat) : Int)
    rw [h.top_eq, Int.natCast_succ]

variable (hkind : kind.isShared = false) (hsettings : ∀ e ∈ settings, e.role = .setting)
include hkind

/-- A layer with a tag that another path has given stops the pass. -/
theorem stops_of_mem {a : String} (hword : IsWord tag) (ha : (a, tag) ∈ written) :
    (run {} p (es ++ onwardEntry kind tag :: settings)).2 = some (.duplicateTag tag) := by
  have hindex : (q.tags.index? tag).isSome := by
    rw [Option.isSome_iff_ne_none]
    exact mt Registry.index?_eq_none_iff.mp (not_not_intro (h.mem_tags ha))
  have hstep : step {} q (onwardEntry kind tag) = .error (.duplicateTag tag) :=
    step_onwardEntry_eq_error (.inr hword) (h.top_succ_le hroom)
      (Declaration.resolve_eq_error_iff.mpr (.inr (.inr ⟨hkind, hword.1, hindex, rfl⟩)))
  exact h.completes.run_snd_append
    (run_snd_eq_some_iff.mpr ⟨[], _, settings, q, rfl, completes_nil_iff.mpr rfl, hstep⟩)

include hsettings

/-- A layer with a new tag is taken with its settings, and so is its tag. -/
theorem tagged {a : String} (hword : IsWord tag) (hnew : tag ∉ written.map (·.2)) :
    ∃ q', p.Follows (es ++ onwardEntry kind tag :: settings) (written ++ [(a, tag)]) q' := by
  have hindex : q.tags.index? tag = none := by
    rwa [Registry.index?_eq_none_iff, h.tags_eq]
  refine ⟨_, h.layer hroom (.inr hword)
    (Declaration.resolve_eq_ok_iff.mpr (.inr (.inr ⟨hkind, hword.1, hindex, rfl, rfl⟩)))
    (.inr ⟨hkind, hsettings⟩) ?_ ?_⟩
  · rw [Registry.add, List.map_append, List.map_append, h.tags_eq]
    rfl
  · rw [List.map_append]
    refine List.nodup_append.mpr ⟨h.nodup, by simp, fun old hold new hsame => ?_⟩
    obtain rfl := List.mem_singleton.mp hsame
    exact fun heq : old = new => hnew (heq ▸ hold)

end Follows

/-- A layer without a tag is taken with its settings. -/
theorem Follows.untagged {written : List (String × String)} (h : p.Follows es written q)
    (hroom : ((es ++ onwardEntry kind "" :: settings).countP (·.role = .layer) : Int) ≤
      maxNodeIndex)
    (hkind : kind.isShared = false) (hsettings : ∀ e ∈ settings, e.role = .setting) :
    ∃ q', p.Follows (es ++ onwardEntry kind "" :: settings) written q' :=
  ⟨_, h.layer hroom (.inl rfl)
    (Declaration.resolve_eq_ok_iff.mpr (.inr (.inl ⟨hkind, rfl, rfl, rfl⟩)))
    (.inr ⟨hkind, hsettings⟩) h.tags_eq h.nodup⟩

/-- A shared layer with a tag that some path has given is taken. -/
theorem Follows.shared {written : List (String × String)} {a : String} (h : p.Follows es written q)
    (hroom : ((es ++ [onwardEntry .shared tag]).countP (·.role = .layer) : Int) ≤ maxNodeIndex)
    (hword : IsWord tag) (ha : (a, tag) ∈ written) :
    ∃ q', p.Follows (es ++ [onwardEntry .shared tag]) written q' := by
  obtain ⟨primary, hprimary⟩ := Option.ne_none_iff_exists'.mp
    (mt Registry.index?_eq_none_iff.mp (not_not_intro (h.mem_tags ha)))
  exact ⟨_, h.layer hroom (.inr hword)
    (Declaration.resolve_eq_ok_iff.mpr (.inl ⟨rfl, hword.1, hprimary, rfl⟩)) (.inl rfl) h.tags_eq
    h.nodup⟩

/-- What a node adds is taken, or stops the pass, as its tag is new or not. -/
theorem Meets.adds {written new : List (String × String)} {es' : List Entry} {node : Node}
    (h : p.Meets es written) (hadds : Capture.Adds written node es' new)
    (hwords : ∀ e ∈ written ++ new, IsWord e.2)
    (hroom : ((es ++ es').countP (·.role = .layer) : Int) ≤ maxNodeIndex) :
    p.Meets (es ++ es') (written ++ new) := by
  cases h with
  | stopped ha hb hne hstop =>
    exact .stopped (List.mem_append_left _ ha) (List.mem_append_left _ hb) hne
      (run_snd_append_of_eq_some hstop es')
  | @taken q h =>
    cases hadds with
    | skipped | functionSkipped | methodSkipped =>
      rw [List.append_nil, List.append_nil]
      exact .taken h
    | plain target hkind hsettings =>
      obtain ⟨q', h'⟩ :=
        h.untagged hroom (Model.isShared_of_kind? hkind) (Model.role_of_settings hsettings)
      rw [List.append_nil]
      exact .taken h'
    | function hkind =>
      obtain ⟨q', h'⟩ := h.untagged hroom (Function.isShared_of_kind? hkind) (by simp)
      rw [List.append_nil]
      exact .taken h'
    | again m reused hfind =>
      obtain ⟨q', h'⟩ := h.shared hroom (hwords _ (List.mem_append_left _ hfind)) hfind
      rw [List.append_nil]
      exact .taken h'
    | @tagged target m kind settings hfresh hkind hsettings =>
      have hshared := Model.isShared_of_kind? hkind
      have hword : IsWord (tagOfPath target) :=
        hwords (target, _) (List.mem_append_right _ List.mem_cons_self)
      by_cases htaken : tagOfPath target ∈ written.map (·.2)
      · obtain ⟨⟨other, tag⟩, hother, htag⟩ := List.mem_map.mp htaken
        obtain rfl : tag = tagOfPath target := htag
        have hne : target ≠ other := by
          rintro rfl
          exact hfresh (List.mem_map_of_mem hother)
        exact .stopped (List.mem_append_right _ List.mem_cons_self)
          (List.mem_append_left _ hother) hne (h.stops_of_mem hroom hshared hword hother)
      · obtain ⟨q', h'⟩ :=
          h.tagged hroom hshared (Model.role_of_settings hsettings) hword htaken
        exact .taken h'

/-- A pass that has no layers and no tags yet meets what some nodes add. -/
theorem meets_of_writes {nodes : List Node} {written : List (String × String)}
    (hwrites : Capture.Writes nodes es written) (hslots : p.slots = []) (htags : p.tags = [])
    (hwords : ∀ e ∈ written, IsWord e.2)
    (hroom : (es.countP (·.role = .layer) : Int) ≤ maxNodeIndex) : p.Meets es written := by
  induction hwrites with
  | nil =>
    exact .taken
      { start := hslots
        completes := completes_nil_iff.mpr rfl
        tags_eq := by simp [htags]
        nodup := List.nodup_nil
        top_eq := by simp [top, hslots] }
  | concat hnodes hnode ih =>
    refine Meets.adds (ih (fun e he => hwords e (List.mem_append_left _ he)) ?_) hnode hwords hroom
    rw [List.countP_append] at hroom
    omega

end Pass

end NetPlan
