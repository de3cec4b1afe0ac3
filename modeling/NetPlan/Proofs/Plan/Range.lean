import NetPlan.Proofs.Declaration.Chain
import NetPlan.Proofs.Plan.Unfinished

/-!
# Configurations with numbers beyond their range

A new plan turns a configuration down with a rejection, but for one case: a number with more digits
than are read is reported as a number that cannot be read, whether it is large or starts with zeros
(`Plan.fault_configure_new`).

The numbers of an entry are the runs of digits of its link or of its shape (`Entry.runs`). An entry
that goes beyond a range is turned down wherever it stands (`Pass.step_of_exceeds`), and the fault
is one of the declaration as long as no run is too long (`Entry.rangeFault`).
-/

namespace NetPlan

open Text

/-! ### The numbers of an entry -/

namespace Entry

/-- The runs of digits of what an entry declares: of a link or of a shape. -/
def runs (e : Entry) : List (List Char) :=
  match e.role with
  | .inputShape => Shape.runsOf e.value
  | .layer => Link.runsOf e.key
  | _ => []

/-- An entry declares a dimension or a node beyond the largest one, where `top` is the node that the
previous layer wrote. -/
def Exceeds (e : Entry) (top : Int) : Prop :=
  (e.role = .inputShape ∧ Shape.Exceeds e.value) ∨ (e.role = .layer ∧ Link.Exceeds e.key top)

/-- The fault of an entry that goes beyond a range: that of a run that is too long, if there is
one. -/
def rangeFault (e : Entry) : Fault :=
  match longRun? e.runs with
  | some n => .longNumeral n
  | none => if e.role = .layer then .nodeOutOfRange e.key else .dimensionOutOfRange e.value

variable {e : Entry}

theorem runs_of_inputShape (h : e.role = .inputShape) : e.runs = Shape.runsOf e.value := by
  simp only [runs, h]

theorem runs_of_layer (h : e.role = .layer) : e.runs = Link.runsOf e.key := by
  simp only [runs, h]

/-- The group of the fault tells whether the digits or the values are to blame. -/
theorem category_rangeFault_iff :
    e.rangeFault.category = .declaration ↔ longRun? e.runs = none := by
  unfold rangeFault
  cases longRun? e.runs with
  | some n => simp [Fault.category]
  | none => by_cases hrole : e.role = .layer <;> simp [hrole, Fault.category]

end Entry

/-- Behind its link, a declaration has no numbers. -/
theorem Declaration.read_eq_longNumeral_iff {e : Entry} {top index : Int} {tags : Registry}
    {n : Nat} :
    Declaration.read e top index tags = .error (.longNumeral n) ↔
      longRun? (Link.runsOf e.key) = some n := by
  have hlink : Link.read e.key top = .error (.longNumeral n) ↔
      longRun? (Link.runsOf e.key) = some n := by
    simp [Link.read_eq_error_iff]
  rw [read_eq_error_iff, hlink]
  refine ⟨fun h => h.resolve_right ?_, .inl⟩
  rintro ⟨-, -, hvalue | ⟨d, -, hkind | ⟨kind, -, htag⟩⟩⟩
  · cases Designation.read_eq_error hvalue
  · cases Kind.named_eq_error hkind
  · simp [resolve_eq_error_iff] at htag

namespace Pass

variable {base : Outline} {p : Pass} {e : Entry} {n : Nat}

/-- Where the structure is not fixed, an entry is turned down for a number that is too long if and
only if it has one. -/
theorem step_eq_longNumeral_iff (hfin : base.header.finalized = false) :
    step base p e = .error (.longNumeral n) ↔ longRun? e.runs = some n := by
  rw [step_eq_error_iff]
  constructor
  · intro h
    cases h with
    | shape hrole _ hread =>
      rw [Entry.runs_of_inputShape hrole]
      simpa [Shape.read_eq_error_iff] using hread
    | declaration hrole hread =>
      rw [Entry.runs_of_layer hrole]
      exact Declaration.read_eq_longNumeral_iff.mp hread
    | place _ _ hadmits => simp [Outline.admit_eq_error_iff] at hadmits
  · intro h
    -- only links and shapes have runs of digits
    cases hrole : e.role with
    | inputShape =>
      rw [Entry.runs_of_inputShape hrole] at h
      exact .shape hrole hfin (Shape.read_eq_error_iff.mpr (.inr (.inl ⟨n, h, rfl⟩)))
    | layer =>
      rw [Entry.runs_of_layer hrole] at h
      exact .declaration hrole (Declaration.read_eq_longNumeral_iff.mpr h)
    | updater | blockStart | blockEnd | blockMarker | setting => simp [Entry.runs, hrole] at h

/-- An entry that goes beyond a range is turned down. -/
theorem step_of_exceeds (hfin : base.header.finalized = false) (h : e.Exceeds p.top) :
    step base p e = .error e.rangeFault := by
  -- the digits are counted before the values are looked at
  cases hlong : longRun? e.runs with
  | some n =>
    rw [Entry.rangeFault, hlong]
    exact (step_eq_longNumeral_iff hfin).mpr hlong
  | none =>
    rw [step_eq_error_iff, Entry.rangeFault, hlong]
    obtain ⟨hrole, hshape⟩ | ⟨hrole, hlink⟩ := h
    · rw [Entry.runs_of_inputShape hrole] at hlong
      have hread := Shape.read_eq_error_iff.mpr (.inr (.inr ⟨hlong, hshape, rfl⟩))
      simpa [hrole] using StopsAt.shape hrole hfin hread
    · rw [Entry.runs_of_layer hrole] at hlong
      have hread := Link.read_eq_error_iff.mpr (.inr (.inr ⟨hlong, hlink, rfl⟩))
      have hstop : StopsAt base p e (.nodeOutOfRange e.key) :=
        .declaration hrole (Declaration.read_eq_error_iff.mpr (.inl hread))
      simpa [hrole] using hstop

end Pass

namespace Plan

open Pass

variable {es : List Entry} {f : Fault}

/-- What a new plan turns down, it rejects, but for numbers that are too long. -/
theorem isRejection_or_of_fault_configure_new
    (h : (({} : Plan).configure (.ofList es)).fault = some f) :
    f.isRejection = true ∨ ∃ n, f = .longNumeral n := by
  obtain ⟨taken, e, left, r, -, -, hstep⟩ := fault_configure_ofList_eq_some_iff.mp h
  obtain hrejects | ⟨hlong, -⟩ | ⟨-, hlayers, -⟩ := turnsDown_of_step hstep
  · exact .inl hrejects
  · exact .inr hlong
  · exact absurd rfl hlayers

/-- **Which faults of a new plan are rejections.** All of them but that of a number with too many
digits, and this one comes up exactly where the entries before are accepted and the next one has
such a number. An entry that goes beyond a range behind entries that are accepted is always turned
down, and as a declaration if and only if none of its numbers has too many digits. -/
theorem fault_configure_new (es : List Entry) :
    let outcome := ({} : Plan).configure (.ofList es)
    (∀ f, outcome.fault = some f → (f.isRejection = false ↔ ∃ n, f = .longNumeral n)) ∧
    (∀ n, outcome.fault = some (.longNumeral n) ↔
      ∃ taken e left, es = taken ++ e :: left ∧
        (({} : Plan).configure (.ofList taken)).fault = none ∧ longRun? e.runs = some n) ∧
    (∀ taken e left q, es = taken ++ e :: left → Completes {} (start {}) taken q →
      e.Exceeds q.top →
        outcome.fault = some e.rangeFault ∧
          (e.rangeFault.category = .declaration ↔ longRun? e.runs = none)) := by
  intro outcome
  refine ⟨fun f hf => ?_, fun n => ?_, fun taken e left q hes htaken hexceeds => ?_⟩
  · obtain hrejects | ⟨n, rfl⟩ := isRejection_or_of_fault_configure_new hf
    · refine iff_of_false (by simp [hrejects]) ?_
      rintro ⟨n, rfl⟩
      cases hrejects
    · exact iff_of_true rfl ⟨n, rfl⟩
  · rw [fault_configure_ofList_eq_some_iff]
    constructor
    · rintro ⟨taken, e, left, q, hes, htaken, hstep⟩
      have haccepted : (({} : Plan).configure (.ofList taken)).fault = none := by
        rw [configure_of_completes rfl htaken]
      exact ⟨taken, e, left, hes, haccepted, (step_eq_longNumeral_iff rfl).mp hstep⟩
    · rintro ⟨taken, e, left, hes, haccepted, hlong⟩
      obtain ⟨q, -, htaken, -⟩ := completes_of_configure haccepted
      exact ⟨taken, e, left, q, hes, htaken, (step_eq_longNumeral_iff rfl).mpr hlong⟩
  · refine ⟨?_, Entry.category_rangeFault_iff⟩
    exact fault_configure_ofList_eq_some_iff.mpr
      ⟨taken, e, left, q, hes, htaken, step_of_exceeds rfl hexceeds⟩

/-- A declaration that leads to a node far beyond the largest one, with one digit too many. -/
def overlongEntry : Entry :=
  ⟨Link.explicitKey 0 (10 ^ maxDigits), "fullc"⟩

/-- That declaration goes beyond the range, and is not rejected but reported as a number that cannot
be read. -/
theorem fault_configure_overlong :
    overlongEntry.Exceeds 0 ∧
      (({} : Plan).configure (.ofList [overlongEntry])).fault = some (.longNumeral (maxDigits + 1)) ∧
      Fault.isRejection (.longNumeral (maxDigits + 1)) = false := by
  have hrole : overlongEntry.role = .layer :=
    Entry.role_eq_layer_iff.mpr (Link.isLayerKey_explicitKey 0 (10 ^ maxDigits))
  have hlong : longRun? overlongEntry.runs = some (maxDigits + 1) := by
    rw [Entry.runs_of_layer hrole, overlongEntry, Link.runsOf_explicitKey, longRun?_cons,
      longRun?_cons, length_toDigits_pow, if_neg (by decide), if_pos (Nat.lt_succ_self _)]
  refine ⟨.inr ⟨hrole, Link.exceeds_explicitKey 0 ?_⟩, ?_, rfl⟩
  · calc maxNodeIndex < ((10 ^ 10 : Nat) : Int) := by decide
      _ ≤ ((10 ^ maxDigits : Nat) : Int) := by
        exact Int.ofNat_le.mpr (Nat.pow_le_pow_right (by decide) (by decide))
  · exact fault_configure_ofList_eq_some_iff.mpr
      ⟨[], overlongEntry, [], start {}, rfl, completes_nil_iff.mpr rfl,
        (step_eq_longNumeral_iff rfl).mpr hlong⟩

end Plan

end NetPlan
