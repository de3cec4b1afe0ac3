import NetPlan.Proofs.Plan.Revalidation

/-!
# Histories of configurations

A plan is configured again and again, and some of the passes fail. Its **history** lists the feeds
with the outcomes, and its **accepted** passes are those without a fault.

What a plan is in the end depends on its history field by field. The outline comes from the first
accepted pass (`outline_configureAll`), the tags from the last one (`tags_configureAll`), the
updater from the entries of all of them (`updater_configureAll`), and the settings from the last
pass alone, accepted or not (`configure_of_getLast?_history`).
-/

namespace NetPlan.Plan

variable {p : Plan} {feed : Feed} {feeds : List Feed} {x : Feed × Outcome}

/-- The plan behind configurations from each of the feeds in order. -/
def configureAll (p : Plan) (feeds : List Feed) : Plan :=
  feeds.foldl (fun p feed => (p.configure feed).plan) p

/-- The feeds with the outcomes of their configurations. -/
def history (p : Plan) : List Feed → List (Feed × Outcome)
  | [] => []
  | feed :: feeds => (feed, p.configure feed) :: (p.configure feed).plan.history feeds

/-- The part of the history that went well. -/
def accepted (p : Plan) (feeds : List Feed) : List (Feed × Outcome) :=
  (p.history feeds).filter (·.2.fault = none)

theorem accepted_cons_of_fault_eq (h : (p.configure feed).fault = none) (feeds : List Feed) :
    p.accepted (feed :: feeds) =
      (feed, p.configure feed) :: (p.configure feed).plan.accepted feeds := by
  simp [accepted, history, h]

theorem accepted_cons_of_fault_ne (h : (p.configure feed).fault ≠ none) (feeds : List Feed) :
    p.accepted (feed :: feeds) = p.clearSettings.accepted feeds := by
  simp [accepted, history, h, configure_plan_of_fault h]

/-- A failure and what comes behind it. -/
theorem configureAll_cons_of_fault_ne (h : (p.configure feed).fault ≠ none) (feeds : List Feed) :
    p.configureAll (feed :: feeds) = p.clearSettings.configureAll feeds := by
  rw [configureAll, List.foldl_cons, configure_plan_of_fault h]
  rfl

theorem history_eq_nil_iff : p.history feeds = [] ↔ feeds = [] := by
  cases feeds <;> simp [history]

/-- Each outcome in a history is that of a configuration of some plan. -/
theorem eq_configure_of_mem_history (h : x ∈ p.history feeds) :
    ∃ (q : Plan) (feed : Feed), x = (feed, q.configure feed) := by
  induction feeds generalizing p with
  | nil => cases h
  | cons feed feeds ih =>
    rcases List.mem_cons.mp h with rfl | h
    · exact ⟨p, feed, rfl⟩
    · exact ih h

/-! ### Structure -/

/-- A finalized plan keeps its outline. -/
theorem outline_configure (hp : p.finalized = true) (feed : Feed) :
    (p.configure feed).plan.outline = p.outline := by
  obtain ⟨q, -, -, heq⟩ | ⟨f, -, heq⟩ := configure_cases p feed
  · rw [heq, Pass.plan_of_finalized hp]
  · rw [heq]
    rfl

theorem outline_configureAll_of_finalized (hp : p.finalized = true) (feeds : List Feed) :
    (p.configureAll feeds).outline = p.outline := by
  induction feeds generalizing p with
  | nil => rfl
  | cons feed feeds ih =>
    have houtline := outline_configure hp feed
    have hfin : (p.configure feed).plan.finalized = true := by
      rw [finalized, header, houtline]
      exact hp
    exact (ih hfin).trans houtline

/-- **The outline is that of the first accepted pass**: failures leave it as it was, and the pass
that sets it finalizes it. -/
theorem outline_configureAll (p : Plan) (feeds : List Feed) :
    (p.configureAll feeds).outline =
      ((p.accepted feeds).head?.map (·.2.plan.outline)).getD p.outline := by
  induction feeds generalizing p with
  | nil => rfl
  | cons feed feeds ih =>
    by_cases h : (p.configure feed).fault = none
    · -- the outline is fixed from here on
      rw [accepted_cons_of_fault_eq h]
      exact outline_configureAll_of_finalized (finalized_of_configure h) feeds
    · rw [accepted_cons_of_fault_ne h, configureAll_cons_of_fault_ne h]
      exact ih p.clearSettings

/-- Failures leave nothing on a new plan, so the first pass that is accepted starts from one. -/
theorem eq_configure_of_head?_accepted (h : (({} : Plan).accepted feeds).head? = some x) :
    x.2 = ({} : Plan).configure x.1 := by
  induction feeds with
  | nil => cases h
  | cons feed feeds ih =>
    by_cases hfeed : (({} : Plan).configure feed).fault = none
    · rw [accepted_cons_of_fault_eq hfeed, List.head?_cons] at h
      obtain rfl := Option.some.inj h
      rfl
    · rw [accepted_cons_of_fault_ne hfeed] at h
      exact ih h

/-! ### Tags and updater -/

/-- **The tags are those of the last accepted pass**: each one sets them anew, and failures leave
them. -/
theorem tags_configureAll (p : Plan) (feeds : List Feed) :
    (p.configureAll feeds).tags =
      ((p.accepted feeds).getLast?.map (·.2.plan.tags)).getD p.tags := by
  induction feeds generalizing p with
  | nil => rfl
  | cons feed feeds ih =>
    by_cases h : (p.configure feed).fault = none
    · rw [accepted_cons_of_fault_eq h, List.getLast?_cons]
      refine (ih (p.configure feed).plan).trans ?_
      cases ((p.configure feed).plan.accepted feeds).getLast? <;> rfl
    · rw [accepted_cons_of_fault_ne h, configureAll_cons_of_fault_ne h]
      exact ih p.clearSettings

/-- The tags of an accepted pass are those that its entries declare. -/
theorem tags_of_mem_accepted (h : x ∈ p.accepted feeds) :
    x.2.plan.tags = (declared x.1.entries).plan.tags := by
  obtain ⟨hmem, hfault⟩ := List.mem_filter.mp h
  obtain ⟨q, feed, rfl⟩ := eq_configure_of_mem_history hmem
  exact (declared_of_configure (of_decide_eq_true hfault)).2.1

/-- **The updater is the last one** that the entries of the accepted passes name, taken together. -/
theorem updater_configureAll (p : Plan) (feeds : List Feed) :
    (p.configureAll feeds).updater =
      (lastUpdater? ((p.accepted feeds).flatMap (·.1.entries))).getD p.updater := by
  induction feeds generalizing p with
  | nil => rfl
  | cons feed feeds ih =>
    by_cases h : (p.configure feed).fault = none
    · rw [accepted_cons_of_fault_eq h, List.flatMap_cons, lastUpdater?_append]
      refine (ih (p.configure feed).plan).trans ?_
      rw [updater_of_configure h]
      cases lastUpdater? (((p.configure feed).plan.accepted feeds).flatMap (·.1.entries)) <;> rfl
    · rw [accepted_cons_of_fault_ne h, configureAll_cons_of_fault_ne h]
      exact ih p.clearSettings

/-! ### Settings -/

/-- The last outcome of a history leaves the plan in the end. -/
theorem configure_of_getLast?_history (h : (p.history feeds).getLast? = some x) :
    ∃ (q : Plan) (feed : Feed),
      x = (feed, q.configure feed) ∧ p.configureAll feeds = (q.configure feed).plan := by
  induction feeds generalizing p with
  | nil => cases h
  | cons feed feeds ih =>
    rw [history, List.getLast?_cons] at h
    cases hlast : ((p.configure feed).plan.history feeds).getLast? with
    | none =>
      obtain rfl : (feed, p.configure feed) = x := by simpa [hlast] using h
      obtain rfl := history_eq_nil_iff.mp (List.getLast?_eq_none_iff.mp hlast)
      exact ⟨p, feed, rfl, rfl⟩
    | some y =>
      obtain rfl : y = x := by simpa [hlast] using h
      exact ih hlast

/-- If the last configuration is accepted, its entries declare the settings. -/
theorem settings_configureAll (h : (p.history feeds).getLast? = some x) (hx : x.2.fault = none) :
    (p.configureAll feeds).globals = (declared x.1.entries).plan.globals ∧
      (p.configureAll feeds).locals =
        (declared x.1.entries).plan.locals.rightpad (p.configureAll feeds).layers.length [] := by
  obtain ⟨q, feed, rfl, heq⟩ := configure_of_getLast?_history h
  obtain ⟨-, -, hglobals, hlocals⟩ := declared_of_configure hx
  rw [heq]
  exact ⟨hglobals, hlocals⟩

/-- If it fails, there are none. -/
theorem settings_configureAll_of_fault_ne (h : (p.history feeds).getLast? = some x)
    (hx : x.2.fault ≠ none) :
    (p.configureAll feeds).globals = [] ∧
      (p.configureAll feeds).locals = List.replicate (p.configureAll feeds).layers.length [] := by
  obtain ⟨q, feed, rfl, heq⟩ := configure_of_getLast?_history h
  rw [heq, configure_plan_of_fault hx]
  exact ⟨rfl, List.map_const'⟩

/-- **The law of whole histories.** A new plan that goes through configurations, accepted or not, is
left with the outline of the first accepted one, which is what this one makes of a new plan; with
the tags of the last accepted one, which are those that its entries declare; and with the updater
that their entries name last. Settings are those that the entries of the very last configuration
declare, if it was accepted, and otherwise there are none. -/
theorem configureAll_new (feeds : List Feed) :
    let passes := ({} : Plan).history feeds
    let accepted := ({} : Plan).accepted feeds
    let p := ({} : Plan).configureAll feeds
    (accepted = [] → p.outline = {} ∧ p.tags = [] ∧ p.updater = "sgd") ∧
    (∀ x ∈ accepted.head?,
      x.2 = ({} : Plan).configure x.1 ∧ p.outline = x.2.plan.outline) ∧
    (∀ x ∈ accepted.getLast?,
      p.tags = x.2.plan.tags ∧ p.tags = (declared x.1.entries).plan.tags) ∧
    p.updater = (lastUpdater? (accepted.flatMap (·.1.entries))).getD "sgd" ∧
    (∀ x ∈ passes.getLast?, x.2.fault = none →
      p.globals = (declared x.1.entries).plan.globals ∧
        p.locals = (declared x.1.entries).plan.locals.rightpad p.layers.length []) ∧
    ((∀ x ∈ passes.getLast?, x.2.fault ≠ none) →
      p.globals = [] ∧ p.locals = List.replicate p.layers.length []) := by
  intro passes accepted p
  have houtline : p.outline = (accepted.head?.map (·.2.plan.outline)).getD {} :=
    outline_configureAll {} feeds
  have htags : p.tags = (accepted.getLast?.map (·.2.plan.tags)).getD [] :=
    tags_configureAll {} feeds
  have hupdater : p.updater = (lastUpdater? (accepted.flatMap (·.1.entries))).getD "sgd" :=
    updater_configureAll {} feeds
  refine ⟨fun hnone => ?_, fun x hx => ⟨eq_configure_of_head?_accepted hx, ?_⟩, fun x hx => ?_,
    hupdater, fun x hx hfault => settings_configureAll hx hfault, fun hfault => ?_⟩
  · rw [hnone] at houtline htags hupdater
    exact ⟨houtline, htags, hupdater⟩
  · rw [houtline, Option.mem_def.mp hx]
    rfl
  · rw [Option.mem_def.mp hx] at htags
    exact ⟨htags, htags.trans (tags_of_mem_accepted (List.mem_of_getLast? hx))⟩
  · cases hlast : passes.getLast? with
    | none =>
      -- nothing has happened to the plan
      obtain rfl := history_eq_nil_iff.mp (List.getLast?_eq_none_iff.mp hlast)
      exact ⟨rfl, rfl⟩
    | some x => exact settings_configureAll_of_fault_ne hlast (hfault x hlast)

end NetPlan.Plan
