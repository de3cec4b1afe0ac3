import NetPlan.Proofs.Plan.Failure

/-!
# What makes the structure

Layers and shapes are **structural** entries. The others are settings, markers and updaters, and
they have no say in the structure: a configuration comes out as it does from the structural entries
alone, unless a setting stands behind a shared layer (`Plan.configure_structural`).

Two passes, one over all entries and one over the structural ones, have the **same graph** on the
way (`Pass.SameGraph`): layers, tags and shape. A structural entry moves both or stops both with one
fault. Any other entry moves the first pass only, which keeps its graph, or it is **barred** there
(`Pass.Bars`).
-/

namespace NetPlan

/-! ### Structural entries -/

/-- An entry that declares a layer or gives a shape. -/
def Entry.IsStructural (e : Entry) : Prop :=
  e.role = .layer ∨ e.role = .inputShape

instance (e : Entry) : Decidable e.IsStructural :=
  inferInstanceAs (Decidable (_ ∨ _))

/-- The structural entries of a list. -/
def structural (es : List Entry) : List Entry :=
  es.filter (·.IsStructural)

theorem structural_append (es fs : List Entry) :
    structural (es ++ fs) = structural es ++ structural fs :=
  List.filter_append ..

theorem structural_cons_of_isStructural {e : Entry} (he : e.IsStructural) (es : List Entry) :
    structural (e :: es) = e :: structural es := by
  simp [structural, he]

theorem structural_cons_of_not_isStructural {e : Entry} (he : ¬e.IsStructural) (es : List Entry) :
    structural (e :: es) = structural es := by
  simp [structural, he]

namespace Pass

variable {base : Outline} {p p' q q' : Pass} {e : Entry} {es : List Entry} {f : Fault} {k : Nat}

/-! ### The layer that takes the settings -/

/-- The layer that the next setting belongs to; `none` if it is a global one. -/
def owner? (p : Pass) : Option Nat :=
  if p.mode = .layerSeen ∧ p.slots ≠ [] then some (p.slots.length - 1) else none

/-- The next setting belongs to the layer declared last, if there is one and no block was opened
behind it. -/
theorem owner?_eq_some_iff :
    p.owner? = some k ↔
      p.mode = .layerSeen ∧ ∃ slot older, p.slots = slot :: older ∧ older.length = k := by
  constructor
  · intro h
    unfold owner? at h
    split at h
    · rename_i hplace
      obtain ⟨slot, older, hslots⟩ := List.exists_cons_of_ne_nil hplace.2
      rw [hslots] at h
      exact ⟨hplace.1, slot, older, hslots, Option.some.inj h⟩
    · cases h
  · rintro ⟨hmode, slot, older, hslots, rfl⟩
    simp [owner?, hmode, hslots]

/-- Otherwise the next setting is a global one. -/
theorem owner?_eq_none_iff : p.owner? = none ↔ p.mode ≠ .layerSeen ∨ p.slots = [] := by
  unfold owner?
  cases hslots : p.slots with
  | nil => simp
  | cons slot older => simp

/-- The layer declared last is the one at the end. -/
theorem getElem?_layers_of_slots {slot : Slot} {older : List Slot} (h : p.slots = slot :: older) :
    p.layers[older.length]? = some slot.layer := by
  simp [layers, h]

/-- A pass bars settings if the layer at `k` would have to take them and is shared. -/
structure Bars (p : Pass) (k : Nat) : Prop where
  owner : p.owner? = some k
  shared : ∃ l, p.layers[k]? = some l ∧ l.isShared = true

/-! ### Passes with the same graph -/

/-- Two passes have built the same: layers, tags and shape. -/
structure SameGraph (p q : Pass) : Prop where
  layers : p.layers = q.layers
  tags : p.tags = q.tags
  shape : p.shape = q.shape

namespace SameGraph

theorem refl (p : Pass) : SameGraph p p :=
  ⟨rfl, rfl, rfl⟩

theorem length (h : SameGraph p q) : p.slots.length = q.slots.length := by
  rw [← length_layers, h.layers, length_layers]

theorem top (h : SameGraph p q) : p.top = q.top := by
  rw [top_eq, h.layers, ← top_eq]

/-- What passes leave of structure and tags hangs on their graph alone. -/
theorem plan (h : SameGraph p q) (base : Outline) :
    (p.plan base).outline = (q.plan base).outline ∧ (p.plan base).tags = (q.plan base).tags := by
  have hlayers : p.slots.reverse.map (·.layer) = q.slots.reverse.map (·.layer) := h.layers
  refine ⟨?_, h.tags⟩
  change p.outline base = q.outline base
  rw [outline, outline, hlayers, h.shape]

end SameGraph

/-! ### One entry -/

namespace Advances

/-- A structural entry that moves a pass moves any pass with the same graph likewise. -/
theorem exists_sameGraph (h : Advances base p e p') (he : e.IsStructural) (hpq : SameGraph p q) :
    ∃ q', Advances base q e q' ∧ SameGraph p' q' := by
  cases h with
  | shapeIgnored hrole hfin =>
    exact ⟨_, .shapeIgnored hrole hfin, hpq.layers, hpq.tags, hpq.shape⟩
  | shape hrole hfin hread => exact ⟨_, .shape hrole hfin hread, hpq.layers, hpq.tags, rfl⟩
  | layer hrole hread hadmits =>
    -- a declaration is read by top node, index and tags, all of which the graph tells
    rw [hpq.top, hpq.length, hpq.tags] at hread
    rw [hpq.length] at hadmits
    refine ⟨_, .layer hrole hread hadmits, ?_, rfl, hpq.shape⟩
    have hlayers : p.slots.reverse.map (·.layer) = q.slots.reverse.map (·.layer) := hpq.layers
    simp only [Pass.layers, List.reverse_cons, List.map_append, hlayers]
  | updater hrole | blockStart hrole | blockEnd hrole | blockMarker hrole | globalSetting hrole
  | ownSetting hrole => simp [Entry.IsStructural, hrole] at he

/-- Any other entry leaves the graph of a pass as it is. -/
theorem sameGraph (h : Advances base p e p') (he : ¬e.IsStructural) (hpq : SameGraph p q) :
    SameGraph p' q := by
  cases h with
  | updater | blockStart | blockEnd | blockMarker | globalSetting =>
    exact ⟨hpq.layers, hpq.tags, hpq.shape⟩
  | ownSetting hrole hmode hslots =>
    refine ⟨?_, hpq.tags, hpq.shape⟩
    rw [← hpq.layers]
    simp [Pass.layers, hslots]
  | shapeIgnored hrole | shape hrole | layer hrole => simp [Entry.IsStructural, hrole] at he

end Advances

/-- A structural entry is turned down by passes with the same graph alike. -/
theorem step_eq_error_of_isStructural (h : step base p e = .error f) (he : e.IsStructural)
    (hpq : SameGraph p q) : step base q e = .error f := by
  rw [step_eq_error_iff] at h ⊢
  cases h with
  | shape hrole hfin hread => exact .shape hrole hfin hread
  | declaration hrole hread =>
    rw [hpq.top, hpq.length, hpq.tags] at hread
    exact .declaration hrole hread
  | place hrole hread hadmits =>
    rw [hpq.top, hpq.length, hpq.tags] at hread
    rw [hpq.length] at hadmits
    exact .place hrole hread hadmits
  | sharedSetting hrole => simp [Entry.IsStructural, hrole] at he

/-- Of the other entries, none is turned down but settings that are barred. -/
theorem bars_of_step (h : step base p e = .error f) (he : ¬e.IsStructural) :
    e.role = .setting ∧ ∃ k, p.Bars k ∧ f = .sharedSetting k e := by
  cases step_eq_error_iff.mp h with
  | @sharedSetting slot older hrole hmode hslots hshared =>
    have howner := owner?_eq_some_iff.mpr ⟨hmode, slot, older, hslots, rfl⟩
    have hlayer := getElem?_layers_of_slots hslots
    exact ⟨hrole, older.length, ⟨howner, slot.layer, hlayer, hshared⟩, rfl⟩
  | shape hrole | declaration hrole | place hrole => simp [Entry.IsStructural, hrole] at he

/-! ### Whole passes -/

/-- Entries that a pass takes can be cut down to the structural ones. -/
theorem Completes.exists_sameGraph (h : Completes base p es p') (hpq : SameGraph p q) :
    ∃ q', Completes base q (structural es) q' ∧ SameGraph p' q' := by
  induction es generalizing p q with
  | nil =>
    obtain rfl := completes_nil_iff.mp h
    exact ⟨q, completes_nil_iff.mpr rfl, hpq⟩
  | cons e es ih =>
    obtain ⟨p₁, hmove, hrest⟩ := completes_cons_iff.mp h
    by_cases he : e.IsStructural
    · obtain ⟨q₁, hmove', hsame⟩ := hmove.exists_sameGraph he hpq
      obtain ⟨q', hrest', hsame'⟩ := ih hrest hsame
      rw [structural_cons_of_isStructural he]
      exact ⟨q', completes_cons_iff.mpr ⟨q₁, hmove', hrest'⟩, hsame'⟩
    · rw [structural_cons_of_not_isStructural he]
      exact ih hrest (hmove.sameGraph he hpq)

/-- A pass stops at a setting that is barred, or where the structural entries alone stop it. -/
theorem run_snd_structural (h : (run base p es).2 = some f) (hpq : SameGraph p q) :
    (∃ taken e left r k, es = taken ++ e :: left ∧ Completes base p taken r ∧ e.role = .setting ∧
      r.Bars k ∧ f = .sharedSetting k e) ∨ (run base q (structural es)).2 = some f := by
  obtain ⟨taken, e, left, r, rfl, htaken, hstep⟩ := run_snd_eq_some_iff.mp h
  by_cases he : e.IsStructural
  · obtain ⟨r', htaken', hsame⟩ := htaken.exists_sameGraph hpq
    refine .inr
      (run_snd_eq_some_iff.mpr ⟨structural taken, e, structural left, r', ?_, htaken', ?_⟩)
    · rw [structural_append, structural_cons_of_isStructural he]
    · exact step_eq_error_of_isStructural hstep he hsame
  · obtain ⟨hrole, k, hbars, hf⟩ := bars_of_step hstep he
    exact .inl ⟨taken, e, left, r, k, rfl, htaken, hrole, hbars, hf⟩

end Pass

namespace Plan

open Pass

/-- **Settings and markers have no say in the structure.** On any plan, a configuration either fails
because a setting stands behind a shared layer, or ends as it does with the structural entries
alone: with the same fault, if any, and with the same structure and tags. -/
theorem configure_structural (p : Plan) (es : List Entry) :
    let outcome := p.configure (.ofList es)
    let core := p.configure (.ofList (structural es))
    (∃ k e, outcome.fault = some (.sharedSetting k e)) ∨
      (outcome.fault = core.fault ∧ outcome.plan.outline = core.plan.outline ∧
        outcome.plan.tags = core.plan.tags) := by
  intro outcome core
  cases hfault : outcome.fault with
  | none =>
    obtain ⟨q, -, hq, heq⟩ := completes_of_configure hfault
    obtain ⟨q', hq', hsame⟩ := hq.exists_sameGraph (SameGraph.refl _)
    have hcore : core = { plan := q'.plan p.outline, notices := q'.notices } :=
      configure_of_completes rfl hq'
    rw [hcore, show outcome = _ from heq]
    exact .inr ⟨rfl, hsame.plan p.outline⟩
  | some f =>
    have hrun : (run p.outline (start p) es).2 = some f :=
      (fault_configure_ofList p es).symm.trans hfault
    obtain ⟨-, e, -, -, k, -, -, -, -, rfl⟩ | hcore := run_snd_structural hrun (SameGraph.refl _)
    · exact .inl ⟨k, e, rfl⟩
    · -- both configurations fail, and leave the plan without its settings
      have hcore' : core.fault = some f := (fault_configure_ofList p _).trans hcore
      have hplan : outcome.plan = p.clearSettings :=
        configure_plan_of_fault (Option.ne_none_iff_exists'.mpr ⟨f, hfault⟩)
      have hplan' : core.plan = p.clearSettings :=
        configure_plan_of_fault (Option.ne_none_iff_exists'.mpr ⟨f, hcore'⟩)
      rw [hplan, hplan']
      exact .inr ⟨hcore'.symm, rfl, rfl⟩

end Plan

end NetPlan
