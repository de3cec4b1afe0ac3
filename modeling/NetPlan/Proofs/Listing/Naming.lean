import Mathlib.Algebra.Group.Nat.Defs
import NetPlan.Listing.Basic
import NetPlan.Proofs.Fault

/-!
# Results that can be named

A result cannot be named only if a number is in the way that has too many digits. As long as numbers
stay small, every result gets a name: a further name at most doubles the greatest number
(`Names.add_eq_ok`), so a run of names goes well if there are not too many of them
(`checks_eq_ok`).
-/

namespace NetPlan.Listing

variable {base : List Char} {name hint : String} {n k bound : Nat} {names : Names}

/-- A base gets a number behind it as long as the number is small enough to be written. -/
theorem numbered_eq_ok (base : List Char) (h : n < numberLimit) :
    ∃ name, numbered base n = .ok name := by
  rw [numbered, digitsOf, if_neg (Nat.not_le.mpr h)]
  exact ⟨_, rfl⟩

/-- A search goes no further than its bound. -/
theorem Names.search_eq_ok (names : Names) (base : List Char) (name : String)
    (h : n + bound < numberLimit) :
    ∃ name' n', names.search base name n bound = .ok (name', n') ∧ n' ≤ n + bound := by
  induction bound generalizing name n with
  | zero => exact ⟨name, n, rfl, Nat.le_refl n⟩
  | succ bound ih =>
    rw [search]
    split
    · obtain ⟨next, hnext⟩ := numbered_eq_ok base (n := n + 1) (by omega)
      obtain ⟨name', n', hsearch, hn'⟩ := ih next (n := n + 1) (by omega)
      rw [hnext]
      exact ⟨name', n', hsearch, by omega⟩
    · exact ⟨name, n, rfl, by omega⟩

/-! ### Small numbers -/

/-- The number at the end of a hint, if there is one, is not beyond a bound. -/
def HintWithin (k : Nat) (hint : String) : Prop :=
  ∀ digits ∈ (splitNumber (nameOfHint hint.toList)).2,
    digits.length ≤ maxDigits ∧ Nat.ofDigitChars 10 digits 0 ≤ k

instance (k : Nat) (hint : String) : Decidable (HintWithin k hint) :=
  inferInstanceAs (Decidable (∀ digits ∈ _, _))

theorem HintWithin.mono {k' : Nat} (h : HintWithin k hint) (hle : k ≤ k') : HintWithin k' hint :=
  fun digits hdigits => ⟨(h digits hdigits).1, Nat.le_trans (h digits hdigits).2 hle⟩

/-- No more names are in use than a bound, and no number behind a base is beyond it. -/
structure Names.Within (k : Nat) (names : Names) : Prop where
  size_le : names.used.size ≤ k
  last_le : ∀ key : String, (names.last[key]?).getD 0 ≤ k

theorem Names.within_empty (k : Nat) : Names.Within k {} where
  size_le := by simp
  last_le key := by simp

/-- A further name and its number keep within a bound that has room for them. -/
theorem Names.Within.insert {k' : Nat} (h : names.Within k) (hk : k < k') (hn : n ≤ k')
    (name key : String) :
    Names.Within k' { used := names.used.insert name (), last := names.last.insert key n } where
  size_le := by
    have hle : (names.used.insert name ()).size ≤ names.used.size + 1 :=
      Std.HashMap.size_insert_le
    exact Nat.le_trans hle (Nat.lt_of_le_of_lt h.size_le hk)
  last_le other := by
    rw [Std.HashMap.getElem?_insert]
    split
    · exact hn
    · exact Nat.le_trans (h.last_le other) (Nat.le_of_lt hk)

/-- The names behind a further one are within this bound. -/
def further (k : Nat) : Nat :=
  2 * k + guardedWords.length + 1

/-- A hint with a small number gets a name. -/
theorem Names.add_eq_ok (hnames : names.Within k) (hhint : HintWithin k hint)
    (hroom : further k < numberLimit) :
    ∃ name names', names.add hint = .ok (name, names') ∧ names'.Within (further k) := by
  have hk : k < further k := by
    unfold further
    omega
  have hbound : k + (names.used.size + guardedWords.length + 1) ≤ further k := by
    have hsize := hnames.size_le
    unfold further
    omega
  have hsearch (base : List Char) (first : String) (start : Nat) (hstart : start ≤ k) :
      ∃ name n, names.search base first start (names.used.size + guardedWords.length + 1) =
        .ok (name, n) ∧ n ≤ further k := by
    have hlimit : start + (names.used.size + guardedWords.length + 1) < numberLimit := by omega
    obtain ⟨name, n, hname, hn⟩ := names.search_eq_ok base first hlimit
    exact ⟨name, n, hname, by omega⟩
  rw [add]
  unfold HintWithin at hhint
  generalize splitNumber (nameOfHint hint.toList) = split at hhint ⊢
  obtain ⟨base, digits?⟩ := split
  have hlast : (names.last[String.ofList base]?).getD 0 ≤ k := hnames.last_le _
  cases digits? with
  | none =>
    obtain ⟨name, n, hname, hn⟩ := hsearch base (String.ofList base) _ hlast
    refine ⟨name, _, bind_eq_ok_iff.mpr ⟨none, rfl, bind_eq_ok_iff.mpr ⟨_, rfl,
      bind_eq_ok_iff.mpr ⟨(name, n), hname, rfl⟩⟩⟩, hnames.insert hk hn name _⟩
  | some digits =>
    obtain ⟨hlength, hvalue⟩ := hhint digits rfl
    have hread : (some digits).mapM valueOf = .ok (some (Nat.ofDigitChars 10 digits 0)) := by
      rw [Option.mapM_some, valueOf, if_neg (Nat.not_lt.mpr hlength)]
      rfl
    generalize Nat.ofDigitChars 10 digits 0 = v at hread hvalue
    obtain ⟨first, hfirst⟩ := numbered_eq_ok base (n := v) (by omega)
    cases v with
    | zero =>
      obtain ⟨name, n, hname, hn⟩ := hsearch base first _ hlast
      exact ⟨name, _, bind_eq_ok_iff.mpr ⟨_, hread, bind_eq_ok_iff.mpr ⟨first, hfirst,
        bind_eq_ok_iff.mpr ⟨(name, n), hname, rfl⟩⟩⟩, hnames.insert hk hn name _⟩
    | succ v =>
      obtain ⟨name, n, hname, hn⟩ := hsearch base first _ hvalue
      exact ⟨name, _, bind_eq_ok_iff.mpr ⟨_, hread, bind_eq_ok_iff.mpr ⟨first, hfirst,
        bind_eq_ok_iff.mpr ⟨(name, n), hname, rfl⟩⟩⟩, hnames.insert hk hn name _⟩

/-! ### Listings -/

theorem further_add (k : Nat) :
    further k + guardedWords.length + 1 = (k + guardedWords.length + 1) * 2 := by
  unfold further
  omega

theorem further_lt (h : (k + guardedWords.length + 1) * 2 ≤ numberLimit) :
    further k < numberLimit := by
  unfold further
  omega

/-- With each name the bound at most doubles, so names for calls are found if there is room for
that. -/
theorem resultNames_eq_ok {cs : List Callee} (hhints : ∀ c ∈ cs, HintWithin k c.hint)
    (hnames : names.Within k)
    (hroom : (k + guardedWords.length + 1) * 2 ^ cs.length ≤ numberLimit) :
    ∃ found names' k', resultNames names cs = .ok (found, names') ∧ names'.Within k' ∧
      k' + guardedWords.length + 1 = (k + guardedWords.length + 1) * 2 ^ cs.length := by
  induction cs generalizing k names with
  | nil => exact ⟨[], names, k, rfl, hnames, by simp⟩
  | cons c cs ih =>
    obtain ⟨hhint, hrest⟩ := List.forall_mem_cons.mp hhints
    rw [List.length_cons, Nat.pow_succ', ← Nat.mul_assoc] at hroom ⊢
    have hfurther : further k < numberLimit :=
      further_lt (Nat.le_trans (Nat.le_mul_of_pos_right _ (Nat.two_pow_pos _)) hroom)
    obtain ⟨name, names₁, hadd, hnames₁⟩ := Names.add_eq_ok hnames hhint hfurther
    rw [← further_add] at hroom ⊢
    have hle : k ≤ further k := by
      unfold further
      omega
    obtain ⟨found, names₂, k', hfound, hwithin, hk'⟩ :=
      ih (fun c hc => (hrest c hc).mono hle) hnames₁ hroom
    exact ⟨name :: found, names₂, k', bind_eq_ok_iff.mpr ⟨_, hadd, bind_eq_ok_iff.mpr
      ⟨_, hfound, rfl⟩⟩, hwithin, hk'⟩

theorem hintWithin_dataName (l : Listing) : HintWithin 0 l.dataName := by
  unfold dataName
  split <;> decide

/-- The data and the results get names whose numbers leave room for one name more. -/
theorem valueNames_eq_ok {l : Listing} (hhints : ∀ c ∈ l.callees, HintWithin k c.hint)
    (hroom : (k + guardedWords.length + 1) * 2 ^ (l.callees.length + 2) ≤ numberLimit) :
    ∃ found names k', l.valueNames = .ok (found, names) ∧ names.Within k' ∧
      further k' < numberLimit := by
  rw [Nat.pow_succ, Nat.pow_succ', ← Nat.mul_assoc, ← Nat.mul_assoc] at hroom
  have hfirst : further k < numberLimit :=
    further_lt (Nat.le_trans (Nat.le_mul_of_pos_right _ (Nat.two_pow_pos _))
      (Nat.le_trans (Nat.le_mul_of_pos_right _ Nat.two_pos) hroom))
  obtain ⟨first, names₁, hadd, hnames₁⟩ :=
    Names.add_eq_ok (Names.within_empty k) ((hintWithin_dataName l).mono (Nat.zero_le k)) hfirst
  rw [← further_add] at hroom
  have hle : k ≤ further k := by
    unfold further
    omega
  obtain ⟨found, names₂, k', hfound, hwithin, hk'⟩ :=
    resultNames_eq_ok (fun c hc => (hhints c hc).mono hle) hnames₁
      (Nat.le_trans (Nat.le_mul_of_pos_right _ Nat.two_pos) hroom)
  rw [← hk'] at hroom
  exact ⟨_, names₂, k', bind_eq_ok_iff.mpr ⟨_, hadd, bind_eq_ok_iff.mpr ⟨_, hfound, rfl⟩⟩, hwithin,
    further_lt hroom⟩

/-- Results whose hints have small numbers can be named, if there are not too many. -/
theorem checks_eq_ok {l : Listing} (hhints : ∀ c ∈ l.callees, HintWithin k c.hint)
    (hroom : (k + guardedWords.length + 1) * 2 ^ (l.callees.length + 2) ≤ numberLimit) :
    l.checkCalls = .ok () ∧ l.checkNames = .ok () := by
  obtain ⟨found, names, k', hvalues, hwithin, hlast⟩ := valueNames_eq_ok hhints hroom
  have houtput : HintWithin k' "output" := HintWithin.mono (by decide : HintWithin 0 "output")
    (Nat.zero_le k')
  obtain ⟨name, names', hadd, -⟩ := Names.add_eq_ok hwithin houtput hlast
  exact ⟨bind_eq_ok_iff.mpr ⟨_, hvalues, rfl⟩,
    bind_eq_ok_iff.mpr ⟨_, hvalues, bind_eq_ok_iff.mpr ⟨_, hadd, rfl⟩⟩⟩

end NetPlan.Listing
