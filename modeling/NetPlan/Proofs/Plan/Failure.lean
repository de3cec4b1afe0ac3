import NetPlan.Plan.Storage
import NetPlan.Proofs.Declaration.Refusal
import NetPlan.Proofs.Plan.Advance

/-!
# What a failure leaves

A configuration fails where its pass turns an entry down, or behind all entries if the feed breaks
off there (`Pass.StopsWith`). Whatever the pass has collected by then is dropped: the outline, the
tags and the updater are those from before, and there are no settings.

Other operations promise more. A text that cannot be read and an archive that cannot be loaded leave
even the settings as they were. That a text cannot be read shows in the fault alone, because a pass
never gives such a fault (`Pass.refused_of_step`).
-/

namespace NetPlan

namespace Pass

variable {base : Outline} {p : Pass} {e : Entry} {es fs : List Entry} {f : Fault}

/-! ### Entries that are turned down -/

/-- A pass turns an entry down with a fault that quotes it. -/
theorem refused_of_step (h : step base p e = .error f) : e.Refused f := by
  cases step_eq_error_iff.mp h with
  | shape _ _ hread => exact Shape.refused_of_read hread
  | declaration _ hread => exact Declaration.refused_of_read hread
  | place _ _ hadmits =>
    obtain ⟨-, -, rfl⟩ | ⟨-, -, rfl⟩ := Outline.admit_eq_error_iff.mp hadmits
    · exact .structureMismatch _
    · exact .unfinishedStructure
  | sharedSetting => exact .sharedSetting _

/-! ### Where a pass stops -/

/-- A pass over a feed stops with a fault: at an entry that it turns down behind those that it has
taken, or behind all entries, where the feed breaks off. -/
inductive StopsWith (base : Outline) (p : Pass) (feed : Feed) (f : Fault) : Prop
  | atEntry {taken left : List Entry} {e : Entry} {q : Pass}
      (hentries : feed.entries = taken ++ e :: left) (htaken : Completes base p taken q)
      (hstep : step base q e = .error f)
  | atEnd {q : Pass} (htaken : Completes base p feed.entries q) (hfeed : feed.fault = some f)

/-- A pass stops with a fault at the first entry that it turns down, behind those that it has
taken. -/
theorem run_snd_eq_some_iff :
    (run base p es).2 = some f ↔
      ∃ taken e left q, es = taken ++ e :: left ∧ Completes base p taken q ∧
        step base q e = .error f := by
  induction es generalizing p with
  | nil => simp [run]
  | cons e es ih =>
    rw [run]
    cases hstep : step base p e with
    | error f' =>
      constructor
      · intro h
        obtain rfl := Option.some.inj h
        exact ⟨[], e, es, p, rfl, completes_nil_iff.mpr rfl, hstep⟩
      · rintro ⟨taken, e', left, q, heq, htaken, hstep'⟩
        cases taken with
        | nil =>
          obtain ⟨rfl, rfl⟩ := List.cons.inj heq
          obtain rfl := completes_nil_iff.mp htaken
          rw [hstep] at hstep'
          exact congrArg some (Except.error.inj hstep')
        | cons e₁ taken =>
          -- the pass does not get past the first entry
          obtain ⟨rfl, -⟩ := List.cons.inj heq
          obtain ⟨q', hmove, -⟩ := completes_cons_iff.mp htaken
          rw [← step_eq_ok_iff, hstep] at hmove
          cases hmove
    | ok p' =>
      refine ih.trans ⟨?_, ?_⟩
      · rintro ⟨taken, e', left, q, rfl, htaken, hstep'⟩
        exact ⟨e :: taken, e', left, q, rfl,
          completes_cons_iff.mpr ⟨p', step_eq_ok_iff.mp hstep, htaken⟩, hstep'⟩
      · rintro ⟨taken, e', left, q, heq, htaken, hstep'⟩
        cases taken with
        | nil =>
          obtain ⟨rfl, rfl⟩ := List.cons.inj heq
          obtain rfl := completes_nil_iff.mp htaken
          rw [hstep] at hstep'
          cases hstep'
        | cons e₁ taken =>
          obtain ⟨rfl, rfl⟩ := List.cons.inj heq
          obtain ⟨q', hmove, hrest⟩ := completes_cons_iff.mp htaken
          rw [← step_eq_ok_iff, hstep] at hmove
          obtain rfl := Except.ok.inj hmove
          exact ⟨taken, e', left, q, rfl, hrest, hstep'⟩

/-- A pass that has stopped stays as it is, whatever stands behind the entry that stopped it. -/
theorem run_append_of_error (h : (run base p es).2 = some f) (fs : List Entry) :
    run base p (es ++ fs) = run base p es := by
  induction es generalizing p with
  | nil => cases h
  | cons e es ih =>
    rw [List.cons_append, run, run]
    rw [run] at h
    cases hstep : step base p e with
    | error f' => rfl
    | ok p' =>
      rw [hstep] at h
      exact ih h

theorem run_snd_append_of_eq_some (h : (run base p es).2 = some f) (fs : List Entry) :
    (run base p (es ++ fs)).2 = some f := by
  rw [run_append_of_error h fs, h]

/-- A pass that goes over all entries goes on with what comes behind. -/
theorem Completes.run_snd_append {q : Pass} (h : Completes base p es q)
    (hstop : (run base q fs).2 = some f) : (run base p (es ++ fs)).2 = some f := by
  obtain ⟨taken, e, left, r, rfl, htaken, hstep⟩ := run_snd_eq_some_iff.mp hstop
  exact run_snd_eq_some_iff.mpr
    ⟨es ++ taken, e, left, r, by simp, completes_append_iff.mpr ⟨q, h, htaken⟩, hstep⟩

end Pass

namespace Plan

open Pass

variable {p : Plan} {feed : Feed} {f : Fault}

/-- The fault of a configuration is that of its pass, and else the one with which its feed breaks
off. -/
theorem fault_configure (p : Plan) (feed : Feed) :
    (p.configure feed).fault = (run p.outline (start p) feed.entries).2.or feed.fault := by
  unfold configure
  cases hfault : (run p.outline (start p) feed.entries).2.or feed.fault <;> simp [hfault]

theorem fault_configure_ofList (p : Plan) (es : List Entry) :
    (p.configure (.ofList es)).fault = (run p.outline (start p) es).2 := by
  rw [fault_configure, Feed.entries_ofList, Feed.fault_ofList, Option.or_none]

/-- **A configuration fails where its pass stops**, and with no other fault. -/
theorem fault_configure_eq_some_iff :
    (p.configure feed).fault = some f ↔ StopsWith p.outline (start p) feed f := by
  rw [fault_configure, Option.or_eq_some_iff, run_snd_eq_some_iff]
  constructor
  · rintro (⟨taken, e, left, q, hentries, htaken, hstep⟩ | ⟨hrun, hfeed⟩)
    · exact .atEntry hentries htaken hstep
    · exact .atEnd (q := (run p.outline (start p) feed.entries).1) (Prod.ext rfl hrun) hfeed
  · rintro (⟨hentries, htaken, hstep⟩ | ⟨htaken, hfeed⟩)
    · exact .inl ⟨_, _, _, _, hentries, htaken, hstep⟩
    · exact .inr ⟨congrArg Prod.snd htaken, hfeed⟩

/-- The faults of a configuration are those of its entries and the one of its feed. -/
theorem category_ne_sheet_of_configure (h : (p.configure feed).fault = some f)
    (hfeed : feed.fault = none) : f.category ≠ .sheet := by
  obtain ⟨-, -, hstep⟩ | ⟨-, hfault⟩ := fault_configure_eq_some_iff.mp h
  · exact (refused_of_step hstep).category_ne_sheet
  · rw [hfeed] at hfault
    cases hfault

/-- A text that cannot be read is told by the group of the fault. -/
theorem fault_configureText_sheet_iff {text : String} :
    (p.configureText text).fault = some f ∧ f.category = .sheet ↔ Sheet.parse text = .error f := by
  unfold configureText
  cases hparse : Sheet.parse text with
  | error f' =>
    have hsheet := Sheet.category_of_parse hparse
    constructor
    · rintro ⟨h, -⟩
      exact congrArg _ (Option.some.inj h)
    · intro h
      obtain rfl := Except.error.inj h
      exact ⟨rfl, hsheet⟩
  | ok es =>
    constructor
    · rintro ⟨h, hsheet⟩
      exact absurd hsheet (category_ne_sheet_of_configure h rfl)
    · intro h
      cases h

/-- **What failures leave**, on any plan. A configuration fails exactly where its pass stops, at an
entry or where the feed breaks off; outline, tags and updater are then as before, and no settings
are left. A text that cannot be read, which is when the fault is one of a sheet, and an archive that
cannot be loaded leave the whole plan as it was. -/
theorem plan_of_fault (p : Plan) :
    (∀ (feed : Feed) (f : Fault),
      (p.configure feed).fault = some f ↔ StopsWith p.outline (start p) feed f) ∧
    (∀ feed : Feed, (p.configure feed).fault ≠ none →
      (p.configure feed).plan =
        { p with globals := [], locals := List.replicate p.layers.length [] }) ∧
    (∀ (text : String) (f : Fault),
      (p.configureText text).fault = some f ∧ f.category = .sheet ↔
        Sheet.parse text = .error f) ∧
    (∀ (text : String) (f : Fault), (p.configureText text).fault = some f →
      f.category = .sheet → (p.configureText text).plan = p) ∧
    (∀ s : Archive.Source, (p.load s).1.fault ≠ none → (p.load s).1.plan = p) := by
  refine ⟨fun feed f => fault_configure_eq_some_iff, fun feed h => ?_,
    fun text f => fault_configureText_sheet_iff, fun text f h hsheet => ?_, fun s h => ?_⟩
  · rw [configure_plan_of_fault h, clearSettings, List.map_const']
  · have hparse := fault_configureText_sheet_iff.mp ⟨h, hsheet⟩
    rw [configureText, hparse]
  · unfold load at h ⊢
    split
    · rename_i hread
      rw [hread] at h
      exact absurd rfl h
    · rfl

end Plan

end NetPlan
