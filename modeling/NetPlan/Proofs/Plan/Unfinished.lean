import NetPlan.Proofs.Declaration.Numeral
import NetPlan.Proofs.Plan.Failure
import NetPlan.Proofs.Plan.History
import NetPlan.Proofs.Plan.Loading

/-!
# Layers that are not fixed

An archive says in its header whether the structure is fixed, and says so independently of its
layers. So a load can leave layers that are not fixed. A pass that finds such layers adds none: it
stops at the first declaration that can be read (`Pass.step_eq_unfinishedStructure_iff`), and goes
over all other entries (`Pass.exists_completes_iff`).

A loaded plan with layers only checks what it is configured with (`Plan.OnlyChecks`) if its archive
says that they are fixed, and not otherwise (`Plan.configure_load`).
-/

namespace NetPlan

open Archive

/-- An entry that neither declares a layer nor gives a shape that cannot be read. -/
def Entry.LeavesLayers (e : Entry) : Prop :=
  e.role ≠ .layer ∧ (e.role = .inputShape → ∃ s, Shape.read e.value = .ok s)

/-- The shape behind some entries: the one that is given last. -/
def shapeBehind (s : Shape) (es : List Entry) : Shape :=
  es.foldl (fun s e => if e.role = .inputShape then (Shape.read e.value).toOption.getD s else s) s

namespace Pass

variable {base : Outline} {p p' q : Pass} {e : Entry} {es : List Entry} {f : Fault}

/-! ### Faults of a pass -/

/-- A pass turns an entry down for what stands in it, for a number that is too long, or because it
declares a layer on top of layers that are not fixed. -/
theorem turnsDown_of_step (h : step base p e = .error f) :
    f.isRejection = true ∨ (∃ n, f = .longNumeral n) ∧ e.HasLongNumeral ∨
      base.header.finalized = false ∧ base.layers ≠ [] ∧ f = .unfinishedStructure ∧
        e.role = .layer ∧ ∃ r, Declaration.read e p.top p.slots.length p.tags = .ok r := by
  cases step_eq_error_iff.mp h with
  | shape _ _ hread =>
    exact (Shape.turnsDown_of_read hread).imp_right fun ⟨hlong, hvalue⟩ => .inl ⟨hlong, .inr hvalue⟩
  | declaration _ hread =>
    exact (Declaration.turnsDown_of_read hread).imp_right
      fun ⟨hlong, hkey⟩ => .inl ⟨hlong, .inl hkey⟩
  | place hrole hread hadmits =>
    obtain ⟨-, -, rfl⟩ | ⟨hfin, hlayers, rfl⟩ := Outline.admit_eq_error_iff.mp hadmits
    · exact .inl rfl
    · exact .inr (.inr ⟨hfin, hlayers, rfl, hrole, _, hread⟩)
  | sharedSetting => exact .inl rfl

/-! ### Passes over layers that are not fixed -/

section

variable (hfin : base.header.finalized = false) (hlayers : base.layers ≠ [])

include hfin hlayers

theorem admit_eq_unfinishedStructure (index : Nat) (l : Layer) (e : Entry) :
    base.admit index l e = .error .unfinishedStructure :=
  Outline.admit_eq_error_iff.mpr (.inr ⟨hfin, hlayers, rfl⟩)

/-- A pass over layers that are not fixed stops at a declaration as soon as it has read it. -/
theorem step_eq_unfinishedStructure_iff :
    step base p e = .error .unfinishedStructure ↔
      e.role = .layer ∧ ∃ r, Declaration.read e p.top p.slots.length p.tags = .ok r := by
  constructor
  · intro h
    obtain hrejects | ⟨⟨n, hlong⟩, -⟩ | ⟨-, -, -, hrole, hread⟩ := turnsDown_of_step h
    · cases hrejects
    · cases hlong
    · exact ⟨hrole, hread⟩
  · rintro ⟨hrole, ⟨l, tags⟩, hread⟩
    have hadmits := admit_eq_unfinishedStructure hfin hlayers p.slots.length l e
    exact step_eq_error_iff.mpr (.place hrole hread hadmits)

/-- What a move over layers that are not fixed changes: the shape, and nothing of layers and
tags. -/
theorem Advances.leaves (h : Advances base p e p') (hp : p.slots = []) :
    e.LeavesLayers ∧ p'.slots = [] ∧ p'.tags = p.tags ∧
      p'.shape = shapeBehind p.shape [e] := by
  cases h with
  | shapeIgnored hrole hfin' => simp [hfin] at hfin'
  | @shape s hrole _ hread =>
    refine ⟨⟨by simp [hrole], fun _ => ⟨s, hread⟩⟩, hp, rfl, ?_⟩
    simp [shapeBehind, hrole, hread, Except.toOption]
  | layer hrole hread hadmits =>
    rw [admit_eq_unfinishedStructure hfin hlayers] at hadmits
    cases hadmits
  | updater hrole | blockStart hrole | blockEnd hrole | blockMarker hrole
  | globalSetting hrole =>
    exact ⟨⟨by simp [hrole], by simp [hrole]⟩, hp, rfl, by simp [shapeBehind, hrole, note]⟩
  | ownSetting hrole hmode hslots => simp [hp] at hslots

omit hlayers in
theorem exists_advances (he : e.LeavesLayers) (hp : p.slots = []) : ∃ p', Advances base p e p' := by
  obtain ⟨hlayer, hshape⟩ := he
  cases hrole : e.role with
  | inputShape =>
    obtain ⟨s, hread⟩ := hshape hrole
    exact ⟨_, .shape hrole hfin hread⟩
  | updater => exact ⟨_, .updater hrole⟩
  | blockStart => exact ⟨_, .blockStart hrole⟩
  | blockEnd => exact ⟨_, .blockEnd hrole⟩
  | blockMarker => exact ⟨_, .blockMarker hrole⟩
  | layer => exact absurd hrole hlayer
  | setting => exact ⟨_, .globalSetting hrole (.inr hp)⟩

theorem Completes.leaves (h : Completes base p es q) (hp : p.slots = []) :
    (∀ e ∈ es, e.LeavesLayers) ∧ q.slots = [] ∧ q.tags = p.tags ∧
      q.shape = shapeBehind p.shape es := by
  induction es generalizing p with
  | nil =>
    obtain rfl := completes_nil_iff.mp h
    exact ⟨List.forall_mem_nil _, hp, rfl, rfl⟩
  | cons e es ih =>
    obtain ⟨p', hmove, hrest⟩ := completes_cons_iff.mp h
    obtain ⟨he, hslots, htags, hshape⟩ := hmove.leaves hfin hlayers hp
    obtain ⟨hes, hqslots, hqtags, hqshape⟩ := ih hrest hslots
    refine ⟨List.forall_mem_cons.mpr ⟨he, hes⟩, hqslots, hqtags.trans htags, ?_⟩
    rw [hqshape, hshape]
    rfl

/-- A pass goes over all entries if none of them declares a layer and the shapes can be read. -/
theorem exists_completes_iff (hp : p.slots = []) :
    (∃ q, Completes base p es q) ↔ ∀ e ∈ es, e.LeavesLayers := by
  constructor
  · rintro ⟨q, hq⟩
    exact (hq.leaves hfin hlayers hp).1
  · intro hes
    induction es generalizing p with
    | nil => exact ⟨p, completes_nil_iff.mpr rfl⟩
    | cons e es ih =>
      obtain ⟨he, hes⟩ := List.forall_mem_cons.mp hes
      obtain ⟨p', hmove⟩ := exists_advances hfin he hp
      obtain ⟨q, hq⟩ := ih (hmove.leaves hfin hlayers hp).2.1 hes
      exact ⟨q, completes_cons_iff.mpr ⟨p', hmove, hq⟩⟩

end

/-- Layers that are not fixed are fixed as they stand, with their own counts and the shape of the
pass. -/
theorem outline_of_slots_eq_nil (hfin : base.header.finalized = false) (hslots : q.slots = []) :
    q.outline base =
      { header :=
          { nodeCount := countNodes base.layers
            layerCount := base.layers.length
            shape := q.shape
            finalized := true }
        layers := base.layers } := by
  simp [outline, hfin, hslots]

end Pass

namespace Plan

open Pass

variable {p q : Plan} {s s' : Source} {es : List Entry} {f : Fault}

/-! ### Faults of a configuration -/

theorem fault_configure_ofList_eq_some_iff :
    (p.configure (.ofList es)).fault = some f ↔
      ∃ taken e left r, es = taken ++ e :: left ∧ Completes p.outline (start p) taken r ∧
        step p.outline r e = .error f := by
  rw [fault_configure_ofList, run_snd_eq_some_iff]

/-- A configuration without numbers that are too long is turned down for what stands in its entries,
or because it declares layers on top of others that are not fixed. -/
theorem isRejection_of_fault_configure (hes : ∀ e ∈ es, ¬e.HasLongNumeral)
    (h : (p.configure (.ofList es)).fault = some f) :
    f.isRejection = true ∨ p.finalized = false ∧ f = .unfinishedStructure := by
  obtain ⟨taken, e, left, r, rfl, -, hstep⟩ := fault_configure_ofList_eq_some_iff.mp h
  obtain hrejects | ⟨-, hlong⟩ | ⟨hfin, -, hf, -⟩ := turnsDown_of_step hstep
  · exact .inl hrejects
  · exact absurd hlong (hes e (by simp))
  · exact .inr ⟨hfin, hf⟩

/-- Configurations of a plan only check: whatever the entries, if their numbers are not too long,
they are accepted or rejected, and the outline stays as it is. -/
def OnlyChecks (p : Plan) : Prop :=
  ∀ es : List Entry, (∀ e ∈ es, ¬e.HasLongNumeral) →
    (∀ f, (p.configure (.ofList es)).fault = some f → f.isRejection = true) ∧
    (p.configure (.ofList es)).plan.outline = p.outline

/-- Already a configuration without entries fixes a structure that is not fixed. -/
theorem onlyChecks_iff : p.OnlyChecks ↔ p.finalized = true := by
  constructor
  · intro h
    have hempty : Completes p.outline (start p) (Feed.ofList []).entries (start p) :=
      completes_nil_iff.mpr rfl
    obtain ⟨-, houtline⟩ := h [] (List.forall_mem_nil _)
    rw [configure_of_completes rfl hempty] at houtline
    have hfixed := finalized_plan p.outline (start p)
    rwa [finalized, header, houtline] at hfixed
  · intro hfin es hes
    refine ⟨fun f hf => ?_, outline_configure hfin _⟩
    obtain hrejects | ⟨hunfinished, -⟩ := isRejection_of_fault_configure hes hf
    · exact hrejects
    · rw [hfin] at hunfinished
      cases hunfinished

/-! ### Layers that are not fixed -/

section

variable (hfin : p.finalized = false) (hlayers : p.layers ≠ [])

include hfin hlayers

/-- Such a plan is configured by all entries that leave its layers alone, and these fix them. -/
theorem fault_configure_unfinished_eq_none_iff :
    (p.configure (.ofList es)).fault = none ↔ ∀ e ∈ es, e.LeavesLayers := by
  rw [← exists_completes_iff hfin hlayers (p := start p) rfl]
  constructor
  · intro h
    obtain ⟨r, -, hr, -⟩ := completes_of_configure h
    exact ⟨r, hr⟩
  · rintro ⟨r, hr⟩
    rw [configure_of_completes rfl hr]

/-- The entries that such a plan accepts leave its layers, now fixed, and the shape that is given
last. -/
theorem outline_configure_unfinished (h : (p.configure (.ofList es)).fault = none) :
    (p.configure (.ofList es)).plan.outline =
      { header :=
          { nodeCount := countNodes p.layers
            layerCount := p.layers.length
            shape := shapeBehind p.header.shape es
            finalized := true }
        layers := p.layers } := by
  obtain ⟨r, -, hr, heq⟩ := completes_of_configure h
  obtain ⟨-, hslots, -, hshape⟩ := hr.leaves hfin hlayers rfl
  have houtline := outline_of_slots_eq_nil hfin hslots
  rw [hshape] at houtline
  rw [heq]
  exact houtline

/-- It turns down, with a fault that is no rejection, the first declaration that can be read. -/
theorem fault_configure_eq_unfinishedStructure_iff :
    (p.configure (.ofList es)).fault = some .unfinishedStructure ↔
      ∃ taken e left, es = taken ++ e :: left ∧ (∀ t ∈ taken, t.LeavesLayers) ∧
        e.role = .layer ∧ ∃ r, Declaration.read e 0 0 [] = .ok r := by
  rw [fault_configure_ofList_eq_some_iff]
  constructor
  · rintro ⟨taken, e, left, r, hes, htaken, hstep⟩
    obtain ⟨hleaves, hslots, htags, -⟩ := htaken.leaves hfin hlayers rfl
    obtain ⟨hrole, hread⟩ := (step_eq_unfinishedStructure_iff hfin hlayers).mp hstep
    simp only [top, hslots, htags] at hread
    exact ⟨taken, e, left, hes, hleaves, hrole, hread⟩
  · rintro ⟨taken, e, left, hes, hleaves, hrole, hread⟩
    obtain ⟨r, hr⟩ := (exists_completes_iff hfin hlayers (p := start p) rfl).mpr hleaves
    obtain ⟨-, hslots, htags, -⟩ := hr.leaves hfin hlayers rfl
    refine ⟨taken, e, left, r, hes, hr, (step_eq_unfinishedStructure_iff hfin hlayers).mpr ?_⟩
    simp only [top, hslots, htags]
    exact ⟨hrole, hread⟩

end

/-! ### Loaded layers -/

/-- Whether a loaded structure is fixed is said by a word of its record, and by nothing else. -/
theorem finalized_load_iff (hload : (p.load s).1.fault = none) :
    (p.load s).1.plan.finalized = true ↔ natOfBytes (wordAt s.rest 20) ≠ 0 := by
  obtain ⟨o, s', hread, heq⟩ := exists_read_of_load hload
  rw [heq]
  change o.header.finalized = true ↔ _
  obtain ⟨header, s₁, hheader, hread⟩ := run_bind_eq_ok_iff.mp hread
  obtain ⟨layers, s₂, -, hread⟩ := run_bind_eq_ok_iff.mp hread
  cases hread
  obtain ⟨record, s₃, hrecord, hheader⟩ := run_bind_eq_ok_iff.mp hheader
  obtain ⟨hlength, hrest⟩ := rest_of_takeBytes hrecord
  have hword : wordAt s.rest 20 = wordAt record 20 := by
    rw [hrest]
    exact wordAt_append (by rw [hlength]; decide) _
  cases hof : headerOfRecord record with
  | error fault =>
    rw [hof] at hheader
    cases hheader
  | ok header' =>
    rw [hof] at hheader
    cases hheader
    obtain ⟨-, -, -, -, -, hflag, -⟩ := fields_of_headerOfRecord hof
    rw [hword, ← not_iff_not, not_not, Bool.not_eq_true]
    exact hflag

/-- **Loaded layers are checked if their archive says that they are fixed.** Behind a load that
leaves layers, configurations only check exactly if the word for it in the record is not zero. If it
is zero, they leave the layers as they are, but the first one that is accepted fixes them, with
counts and a shape of its own; accepted are the entries that leave the layers alone. The first
declaration that can be read is turned down, with a fault that is not a rejection. -/
theorem configure_load (hload : (p.load s).1.fault = none) (hlayers : (p.load s).1.plan.layers ≠ []) :
    let q := (p.load s).1.plan
    (q.OnlyChecks ↔ natOfBytes (wordAt s.rest 20) ≠ 0) ∧
    (natOfBytes (wordAt s.rest 20) = 0 → ∀ es : List Entry,
      let outcome := q.configure (.ofList es)
      (outcome.fault = none ↔ ∀ e ∈ es, e.LeavesLayers) ∧
      (outcome.fault = none →
        outcome.plan.outline =
          { header :=
              { nodeCount := countNodes q.layers
                layerCount := q.layers.length
                shape := shapeBehind q.header.shape es
                finalized := true }
            layers := q.layers }) ∧
      (outcome.fault ≠ none → outcome.plan.outline = q.outline) ∧
      (outcome.fault = some .unfinishedStructure ↔
        ∃ taken e left, es = taken ++ e :: left ∧ (∀ t ∈ taken, t.LeavesLayers) ∧
          e.role = .layer ∧ ∃ r, Declaration.read e 0 0 [] = .ok r) ∧
      (∀ f, outcome.fault = some f → (∀ e ∈ es, ¬e.HasLongNumeral) →
        f.isRejection = true ∨ f = .unfinishedStructure)) := by
  intro q
  refine ⟨onlyChecks_iff.trans (finalized_load_iff hload), fun hword es => ?_⟩
  have hfin : q.finalized = false := by
    rw [← Bool.not_eq_true, finalized_load_iff hload, not_not]
    exact hword
  intro outcome
  refine ⟨fault_configure_unfinished_eq_none_iff hfin hlayers,
    outline_configure_unfinished hfin hlayers, fun h => ?_,
    fault_configure_eq_unfinishedStructure_iff hfin hlayers, fun f hf hes => ?_⟩
  · rw [configure_plan_of_fault h]
    rfl
  · exact (isRejection_of_fault_configure hes hf).imp_right And.right

/-- A layer that is not fixed. -/
def adrift : Outline :=
  { header := { nodeCount := 2, layerCount := 1 }
    layers := [⟨.fullc, [0], [1], -1⟩] }

/-- Behind a load of that layer, configurations do more than check. -/
theorem configure_load_adrift :
    ¬(({} : Plan).load { rest := (write adrift).bytes }).1.plan.OnlyChecks ∧
      ((({} : Plan).load { rest := (write adrift).bytes }).1.plan.configure
        (.ofList [⟨"updater", "adam"⟩])).fault = none := by
  have hload :
      (({} : Plan).load { rest := (write adrift).bytes }).1 = { plan := ofOutline adrift } := by
    decide +kernel
  have hfault : (({} : Plan).load { rest := (write adrift).bytes }).1.fault = none := by rw [hload]
  have hlayers : (({} : Plan).load { rest := (write adrift).bytes }).1.plan.layers ≠ [] := by
    rw [hload]
    decide
  have hword : natOfBytes (wordAt (write adrift).bytes 20) = 0 := by decide +kernel
  obtain ⟨hchecks, hconfigure⟩ := configure_load hfault hlayers
  obtain ⟨haccepted, -⟩ := hconfigure hword [⟨"updater", "adam"⟩]
  refine ⟨fun h => hchecks.mp h hword, haccepted.mpr ?_⟩
  exact List.forall_mem_singleton.mpr ⟨by decide, fun hrole => absurd hrole (by decide)⟩

/-- The declaration of that very layer is turned down, and not as a rejection; no entries at all fix
the layer. -/
theorem configure_load_adrift_again :
    (({} : Plan).load { rest := (write adrift).bytes }).1 = { plan := ofOutline adrift } ∧
      adrift.layers ≠ [] ∧ (∀ e ∈ [Entry.mk "layer[0->1]" "fullc"], ¬e.HasLongNumeral) ∧
      ((ofOutline adrift).configure (.ofList [⟨"layer[0->1]", "fullc"⟩])).fault =
        some .unfinishedStructure ∧
      Fault.isRejection .unfinishedStructure = false ∧
      ((ofOutline adrift).configure (.ofList [])).plan.outline ≠ adrift := by
  refine ⟨by decide +kernel, by decide, ?_, by decide, rfl, by decide⟩
  exact List.forall_mem_singleton.mpr (Entry.not_hasLongNumeral (by decide) (by decide))

end Plan

end NetPlan
