import NetPlan.Plan.Configure
import NetPlan.Proofs.Entry
import NetPlan.Proofs.Fault

/-!
# What a pass can do

A pass moves by one entry at a time. `Pass.Advances base p e p'` lists its moves, one constructor a
move, and `Pass.step_eq_ok_iff` says that these are all of them; `Pass.StopsAt base p e f` and
`Pass.step_eq_error_iff` do the same for the entries that it turns down.
`Pass.Completes base p es p'` says that no entry of a list is turned down; facts on whole passes
come from facts on one move by induction on the list, through `Pass.completes_cons_iff`.

A pass against any outline only ever adds layers (`Completes.layers_prefix`), one for each
declaration (`Completes.length_layers`), and its updater is the last one that was named
(`Completes.updater_eq`). `Plan.configure_cases` gives the two ways in which a configuration ends.
-/

namespace NetPlan

@[simp]
theorem Feed.entries_ofList (es : List Entry) : (Feed.ofList es).entries = es := rfl

@[simp]
theorem Feed.fault_ofList (es : List Entry) : (Feed.ofList es).fault = none := rfl

/-! ### Places in an outline -/

/-- A layer is admitted if a finalized outline has it at its place, or if an outline that is not
finalized has no layers. -/
theorem Outline.admit_eq_ok_iff {base : Outline} {index : Nat} {l : Layer} {e : Entry} :
    base.admit index l e = .ok () ↔
      if base.header.finalized then base.layers[index]? = some l else base.layers = [] := by
  unfold Outline.admit
  split
  · split <;> simp_all
  · split <;> simp_all

/-- A layer is turned down if a finalized outline has another one or none at its place, or if an
outline that is not finalized has layers. -/
theorem Outline.admit_eq_error_iff {base : Outline} {index : Nat} {l : Layer} {e : Entry}
    {f : Fault} :
    base.admit index l e = .error f ↔
      (base.header.finalized = true ∧ base.layers[index]? ≠ some l ∧
        f = .structureMismatch index e) ∨
      (base.header.finalized = false ∧ base.layers ≠ [] ∧ f = .unfinishedStructure) := by
  unfold Outline.admit
  cases hfin : base.header.finalized with
  | true => by_cases hl : base.layers[index]? = some l <;> simp [hl, @eq_comm Fault f]
  | false => cases hlayers : base.layers <;> simp [@eq_comm Fault f]

namespace Pass

variable {base : Outline} {p p' q : Pass} {e : Entry} {es : List Entry} {f : Fault}

/-- The layers that a pass has collected, in the order of their declaration. -/
def layers (p : Pass) : List Layer :=
  p.slots.reverse.map (·.layer)

/-- The settings of each layer that a pass has collected, in the order of the layers. -/
def locals (p : Pass) : List (List Entry) :=
  p.slots.reverse.map (·.settings)

@[simp]
theorem length_layers (p : Pass) : p.layers.length = p.slots.length := by
  simp [layers]

@[simp]
theorem length_locals (p : Pass) : p.locals.length = p.slots.length := by
  simp [locals]

@[simp]
theorem layers_start (p : Plan) : (start p).layers = [] := rfl

/-- The node to go on from is told by the layer at the end. -/
theorem top_eq (p : Pass) : p.top = (p.layers.getLast?.map (·.outputs.headD 0)).getD 0 := by
  unfold top
  cases hslots : p.slots with
  | nil => simp [layers, hslots]
  | cons slot older => simp [layers, hslots]

/-! ### Moves -/

/-- The moves of a pass over an entry, against a given outline. -/
inductive Advances (base : Outline) (p : Pass) (e : Entry) : Pass → Prop
  | shapeIgnored (hrole : e.role = .inputShape) (hfin : base.header.finalized = true) :
      Advances base p e (p.note .shapeIgnored)
  | shape {s : Shape} (hrole : e.role = .inputShape) (hfin : base.header.finalized = false)
      (hread : Shape.read e.value = .ok s) : Advances base p e { p with shape := s }
  | updater (hrole : e.role = .updater) : Advances base p e { p with updater := e.value }
  | blockStart (hrole : e.role = .blockStart) : Advances base p e { p with mode := .blockStarted }
  | blockEnd (hrole : e.role = .blockEnd) : Advances base p e { p with mode := .layerSeen }
  | blockMarker (hrole : e.role = .blockMarker) :
      Advances base p e (p.note (.unknownMarker e.value))
  | layer {l : Layer} {tags : Registry} (hrole : e.role = .layer)
      (hread : Declaration.read e p.top p.slots.length p.tags = .ok (l, tags))
      (hadmits : base.admit p.slots.length l e = .ok ()) :
      Advances base p e { p with slots := { layer := l } :: p.slots, tags, mode := .layerSeen }
  | globalSetting (hrole : e.role = .setting) (hplace : p.mode ≠ .layerSeen ∨ p.slots = []) :
      Advances base p e { p with globals := p.globals ++ [e] }
  | ownSetting {slot : Slot} {older : List Slot} (hrole : e.role = .setting)
      (hmode : p.mode = .layerSeen) (hslots : p.slots = slot :: older)
      (hshared : slot.layer.isShared = false) :
      Advances base p e
        { p with slots := { slot with settings := slot.settings ++ [e] } :: older }

/-- A declaration is taken if it can be read and the outline admits its layer. -/
theorem declare_eq_ok_iff :
    declare base p e = .ok p' ↔
      ∃ l tags, Declaration.read e p.top p.slots.length p.tags = .ok (l, tags) ∧
        base.admit p.slots.length l e = .ok () ∧
        p' = { p with slots := { layer := l } :: p.slots, tags, mode := .layerSeen } := by
  simp only [declare, bind_eq_ok_iff, pure_eq_ok_iff]
  constructor
  · rintro ⟨⟨l, tags⟩, hread, ⟨⟩, hadmits, hp'⟩
    exact ⟨l, tags, hread, hadmits, hp'⟩
  · rintro ⟨l, tags, hread, hadmits, hp'⟩
    exact ⟨(l, tags), hread, (), hadmits, hp'⟩

/-- A declaration is turned down if it cannot be read, or else if the outline does not admit its
layer. -/
theorem declare_eq_error_iff :
    declare base p e = .error f ↔
      Declaration.read e p.top p.slots.length p.tags = .error f ∨
        ∃ l tags, Declaration.read e p.top p.slots.length p.tags = .ok (l, tags) ∧
          base.admit p.slots.length l e = .error f := by
  rw [declare, bind_eq_error_iff]
  refine or_congr_right ⟨?_, ?_⟩
  · rintro ⟨⟨l, tags⟩, hread, h⟩
    obtain hadmits | ⟨-, -, h⟩ := bind_eq_error_iff.mp h
    · exact ⟨l, tags, hread, hadmits⟩
    · cases h
  · rintro ⟨l, tags, hread, hadmits⟩
    exact ⟨(l, tags), hread, bind_eq_error_iff.mpr (.inl hadmits)⟩

/-- A setting is taken as a global one, or by the last layer, if that one is not shared. -/
theorem assign_eq_ok_iff :
    assign p e = .ok p' ↔
      ((p.mode ≠ .layerSeen ∨ p.slots = []) ∧ p' = { p with globals := p.globals ++ [e] }) ∨
        ∃ slot older, p.mode = .layerSeen ∧ p.slots = slot :: older ∧
          slot.layer.isShared = false ∧
          p' = { p with slots := { slot with settings := slot.settings ++ [e] } :: older } := by
  unfold assign
  split
  case h_1 slot older hmode hslots =>
    split
    case isTrue hshared => simp [hmode, hslots, hshared]
    case isFalse hshared =>
      -- the setting belongs to the last layer
      have hshared' : slot.layer.isShared = false := by simpa using hshared
      constructor
      · intro h
        exact .inr ⟨slot, older, hmode, hslots, hshared', (Except.ok.inj h).symm⟩
      · rintro (⟨hplace, -⟩ | ⟨slot', older', -, hslots', -, rfl⟩)
        · simp [hmode, hslots] at hplace
        · obtain ⟨rfl, rfl⟩ := List.cons.inj (hslots.symm.trans hslots')
          rfl
  case h_2 hplace =>
    have hplace' : p.mode ≠ .layerSeen ∨ p.slots = [] := by
      cases hslots : p.slots with
      | nil => exact .inr rfl
      | cons slot older => exact .inl fun hmode => hplace slot older hmode hslots
    constructor
    · intro h
      exact .inl ⟨hplace', (Except.ok.inj h).symm⟩
    · rintro (⟨-, rfl⟩ | ⟨slot, older, hmode, hslots, -, -⟩)
      · rfl
      · exact absurd hslots (hplace slot older hmode)

/-- A setting is turned down only if a shared layer would have to take it. -/
theorem assign_eq_error_iff :
    assign p e = .error f ↔
      ∃ slot older, p.mode = .layerSeen ∧ p.slots = slot :: older ∧
        slot.layer.isShared = true ∧ f = .sharedSetting older.length e := by
  constructor
  · intro h
    unfold assign at h
    split at h
    · rename_i slot older hmode hslots
      split at h
      · rename_i hshared
        exact ⟨slot, older, hmode, hslots, hshared, (Except.error.inj h).symm⟩
      · cases h
    · cases h
  · rintro ⟨slot, older, hmode, hslots, hshared, rfl⟩
    simp [assign, hmode, hslots, hshared]

/-- A pass goes on over an entry by one of its moves and in no other way. -/
theorem step_eq_ok_iff : step base p e = .ok p' ↔ Advances base p e p' := by
  constructor
  · intro h
    unfold step at h
    split at h
    case h_1 hrole =>
      split at h
      · obtain rfl := Except.ok.inj h
        exact .shapeIgnored hrole ‹_›
      · rename_i hfin
        obtain ⟨s, hread, hp'⟩ := bind_eq_ok_iff.mp h
        obtain rfl := pure_eq_ok_iff.mp hp'
        exact .shape hrole (by simpa using hfin) hread
    case h_2 hrole =>
      obtain rfl := Except.ok.inj h
      exact .updater hrole
    case h_3 hrole =>
      obtain rfl := Except.ok.inj h
      exact .blockStart hrole
    case h_4 hrole =>
      obtain rfl := Except.ok.inj h
      exact .blockEnd hrole
    case h_5 hrole =>
      obtain rfl := Except.ok.inj h
      exact .blockMarker hrole
    case h_6 hrole =>
      obtain ⟨l, tags, hread, hadmits, rfl⟩ := declare_eq_ok_iff.mp h
      exact .layer hrole hread hadmits
    case h_7 hrole =>
      obtain ⟨hplace, rfl⟩ | ⟨slot, older, hmode, hslots, hshared, rfl⟩ := assign_eq_ok_iff.mp h
      · exact .globalSetting hrole hplace
      · exact .ownSetting hrole hmode hslots hshared
  · intro h
    cases h with
    | shapeIgnored hrole hfin => simp [step, hrole, hfin]
    | shape hrole hfin hread =>
      simp only [step, hrole, hfin, Bool.false_eq_true, if_false]
      exact bind_eq_ok_iff.mpr ⟨_, hread, rfl⟩
    | updater hrole => simp [step, hrole]
    | blockStart hrole => simp [step, hrole]
    | blockEnd hrole => simp [step, hrole]
    | blockMarker hrole => simp [step, hrole]
    | layer hrole hread hadmits =>
      simp only [step, hrole]
      exact declare_eq_ok_iff.mpr ⟨_, _, hread, hadmits, rfl⟩
    | globalSetting hrole hplace =>
      simp only [step, hrole]
      exact assign_eq_ok_iff.mpr (.inl ⟨hplace, rfl⟩)
    | ownSetting hrole hmode hslots hshared =>
      simp only [step, hrole]
      exact assign_eq_ok_iff.mpr (.inr ⟨_, _, hmode, hslots, hshared, rfl⟩)

/-! ### Stops -/

/-- The ways in which a pass turns an entry down, against a given outline. -/
inductive StopsAt (base : Outline) (p : Pass) (e : Entry) : Fault → Prop
  | shape {f : Fault} (hrole : e.role = .inputShape) (hfin : base.header.finalized = false)
      (hread : Shape.read e.value = .error f) : StopsAt base p e f
  | declaration {f : Fault} (hrole : e.role = .layer)
      (hread : Declaration.read e p.top p.slots.length p.tags = .error f) : StopsAt base p e f
  | place {f : Fault} {l : Layer} {tags : Registry} (hrole : e.role = .layer)
      (hread : Declaration.read e p.top p.slots.length p.tags = .ok (l, tags))
      (hadmits : base.admit p.slots.length l e = .error f) : StopsAt base p e f
  | sharedSetting {slot : Slot} {older : List Slot} (hrole : e.role = .setting)
      (hmode : p.mode = .layerSeen) (hslots : p.slots = slot :: older)
      (hshared : slot.layer.isShared = true) : StopsAt base p e (.sharedSetting older.length e)

/-- A pass turns an entry down in one of these ways and in no other way. -/
theorem step_eq_error_iff : step base p e = .error f ↔ StopsAt base p e f := by
  constructor
  · intro h
    unfold step at h
    split at h
    case h_1 hrole =>
      split at h
      · cases h
      · rename_i hfin
        obtain hread | ⟨s, -, h⟩ := bind_eq_error_iff.mp h
        · exact .shape hrole (by simpa using hfin) hread
        · cases h
    case h_6 hrole =>
      obtain hread | ⟨l, tags, hread, hadmits⟩ := declare_eq_error_iff.mp h
      · exact .declaration hrole hread
      · exact .place hrole hread hadmits
    case h_7 hrole =>
      obtain ⟨slot, older, hmode, hslots, hshared, rfl⟩ := assign_eq_error_iff.mp h
      exact .sharedSetting hrole hmode hslots hshared
    case h_2 | h_3 | h_4 | h_5 => cases h
  · intro h
    cases h with
    | shape hrole hfin hread =>
      simp only [step, hrole, hfin, Bool.false_eq_true, if_false]
      exact bind_eq_error_iff.mpr (.inl hread)
    | declaration hrole hread =>
      simp only [step, hrole]
      exact declare_eq_error_iff.mpr (.inl hread)
    | place hrole hread hadmits =>
      simp only [step, hrole]
      exact declare_eq_error_iff.mpr (.inr ⟨_, _, hread, hadmits⟩)
    | sharedSetting hrole hmode hslots hshared =>
      simp only [step, hrole]
      exact assign_eq_error_iff.mpr ⟨_, _, hmode, hslots, hshared, rfl⟩

namespace Advances

/-- A move over a declaration adds the layer that the outline admits; other moves add none. -/
theorem layers_cases (h : Advances base p e p') :
    (e.role ≠ .layer ∧ p'.layers = p.layers) ∨
      e.role = .layer ∧
        ∃ l, base.admit p.slots.length l e = .ok () ∧ p'.layers = p.layers ++ [l] := by
  cases h with
  | layer hrole hread hadmits => exact .inr ⟨hrole, _, hadmits, by simp [layers]⟩
  | ownSetting hrole hmode hslots hshared =>
    exact .inl ⟨by simp [hrole], by simp [layers, hslots]⟩
  | shapeIgnored hrole | shape hrole | updater hrole | blockStart hrole | blockEnd hrole
  | blockMarker hrole | globalSetting hrole => exact .inl ⟨by simp [hrole], rfl⟩

/-- A move leaves the layers so far in place. -/
theorem layers_prefix (h : Advances base p e p') : p.layers <+: p'.layers := by
  obtain ⟨-, heq⟩ | ⟨-, l, -, heq⟩ := h.layers_cases
  · exact ⟨[], by rw [heq, List.append_nil]⟩
  · exact ⟨[l], heq.symm⟩

/-- The updater changes at an entry that names one, and nowhere else. -/
theorem updater_eq (h : Advances base p e p') :
    p'.updater = if e.role = .updater then e.value else p.updater := by
  cases h with
  | updater hrole => simp [hrole]
  | shapeIgnored hrole | shape hrole | blockStart hrole | blockEnd hrole | blockMarker hrole
  | layer hrole | globalSetting hrole | ownSetting hrole => simp [hrole, note]

end Advances

/-! ### Whole passes -/

/-- A pass goes over all entries of a list and ends in a given pass. -/
def Completes (base : Outline) (p : Pass) (es : List Entry) (p' : Pass) : Prop :=
  run base p es = (p', none)

@[simp]
theorem completes_nil_iff : Completes base p [] p' ↔ p' = p := by
  simp [Completes, run, eq_comm]

theorem completes_cons_iff :
    Completes base p (e :: es) p' ↔ ∃ q, Advances base p e q ∧ Completes base q es p' := by
  unfold Completes
  rw [run]
  cases hstep : step base p e with
  | error f =>
    -- the pass stops at this entry, so there is no move over it
    have hnone : ∀ q, ¬ Advances base p e q := fun q hq => by
      rw [← step_eq_ok_iff, hstep] at hq
      exact absurd hq (by simp)
    simp [hnone]
  | ok q =>
    have hq : ∀ q', Advances base p e q' ↔ q = q' := fun q' => by
      rw [← step_eq_ok_iff, hstep, Except.ok.injEq]
    simp [hq]

/-- A pass goes over two lists one after the other. -/
theorem completes_append_iff {fs : List Entry} :
    Completes base p (es ++ fs) p' ↔ ∃ q, Completes base p es q ∧ Completes base q fs p' := by
  induction es generalizing p with
  | nil => simp
  | cons e es ih =>
    rw [List.cons_append, completes_cons_iff]
    simp only [ih, completes_cons_iff]
    constructor
    · rintro ⟨r, hmove, q, hq, hrest⟩
      exact ⟨q, ⟨r, hmove, hq⟩, hrest⟩
    · rintro ⟨q, ⟨r, hmove, hq⟩, hrest⟩
      exact ⟨r, hmove, q, hq, hrest⟩

namespace Completes

/-- What each move keeps, a whole pass keeps. -/
theorem preserves {P : Pass → Prop}
    (hmove : ∀ {p e p'}, Advances base p e p' → P p → P p')
    (h : Completes base p es p') (hp : P p) : P p' := by
  induction es generalizing p with
  | nil =>
    obtain rfl := completes_nil_iff.mp h
    exact hp
  | cons e es ih =>
    obtain ⟨q, hpq, hq⟩ := completes_cons_iff.mp h
    exact ih hq (hmove hpq hp)

theorem layers_prefix (h : Completes base p es p') : p.layers <+: p'.layers :=
  h.preserves (P := fun q => p.layers <+: q.layers)
    (fun hmove hq => hq.trans hmove.layers_prefix) List.prefix_rfl

/-- A pass collects one layer for each declaration. -/
theorem length_layers (h : Completes base p es p') :
    p'.layers.length = p.layers.length + es.countP (·.role = .layer) := by
  induction es generalizing p with
  | nil =>
    obtain rfl := completes_nil_iff.mp h
    rfl
  | cons e es ih =>
    obtain ⟨q, hpq, hq⟩ := completes_cons_iff.mp h
    rw [ih hq, List.countP_cons]
    obtain ⟨hrole, heq⟩ | ⟨hrole, l, -, heq⟩ := hpq.layers_cases
    · simp [heq, hrole]
    · simp only [heq, hrole, List.length_append, List.length_singleton, decide_true, if_true]
      omega

/-- The updater of a pass is the last one that an entry names, if one does. -/
theorem updater_eq (h : Completes base p es p') :
    p'.updater = (lastUpdater? es).getD p.updater := by
  induction es generalizing p with
  | nil =>
    obtain rfl := completes_nil_iff.mp h
    rfl
  | cons e es ih =>
    obtain ⟨q, hpq, hq⟩ := completes_cons_iff.mp h
    rw [ih hq, hpq.updater_eq, lastUpdater?_cons]
    cases lastUpdater? es with
    | some name => rfl
    | none => by_cases he : e.role = .updater <;> simp [he]

end Completes

end Pass

/-! ### Configuration -/

namespace Plan

open Pass

/-- A configuration is accepted if its feed ends well and the pass goes over all entries. -/
theorem configure_of_completes {p : Plan} {feed : Feed} {q : Pass} (hfeed : feed.fault = none)
    (h : Completes p.outline (start p) feed.entries q) :
    p.configure feed = { plan := q.plan p.outline, notices := q.notices } := by
  have hrun : run p.outline (start p) feed.entries = (q, none) := h
  simp [configure, hrun, hfeed]

/-- A configuration is either accepted, and then the plan is the one of its pass, or it leaves the
plan that stood without its settings. -/
theorem configure_cases (p : Plan) (feed : Feed) :
    (∃ q, feed.fault = none ∧ Completes p.outline (start p) feed.entries q ∧
      p.configure feed = { plan := q.plan p.outline, notices := q.notices }) ∨
    ∃ f, (p.configure feed).fault = some f ∧ (p.configure feed).plan = p.clearSettings := by
  cases hrun : run p.outline (start p) feed.entries with
  | mk q fault =>
    cases hfault : fault.or feed.fault with
    | some f => exact .inr ⟨f, by simp [configure, hrun, hfault]⟩
    | none =>
      obtain ⟨rfl, hfeed⟩ := Option.or_eq_none_iff.mp hfault
      exact .inl ⟨q, hfeed, hrun, configure_of_completes hfeed hrun⟩

/-- An accepted configuration is a pass over all entries, and leaves the plan of that pass. -/
theorem completes_of_configure {p : Plan} {feed : Feed} (h : (p.configure feed).fault = none) :
    ∃ q, feed.fault = none ∧ Completes p.outline (start p) feed.entries q ∧
      p.configure feed = { plan := q.plan p.outline, notices := q.notices } := by
  obtain hacc | ⟨f, hf, -⟩ := configure_cases p feed
  · exact hacc
  · simp [hf] at h

/-- A configuration that fails takes the settings of the plan away and nothing else. -/
theorem configure_plan_of_fault {p : Plan} {feed : Feed} (h : (p.configure feed).fault ≠ none) :
    (p.configure feed).plan = p.clearSettings := by
  obtain ⟨q, -, -, heq⟩ | ⟨f, -, heq⟩ := configure_cases p feed
  · simp [heq] at h
  · exact heq

end Plan

end NetPlan
