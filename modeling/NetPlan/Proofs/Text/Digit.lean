import Mathlib.Algebra.Group.Nat.Defs
import Mathlib.Data.List.Basic
import NetPlan.Declaration.Numeral
import NetPlan.Proofs.Text.Blank

/-!
# Digits and plain numbers

A digit of any script stands behind one of the zeros, and no white space does
(`Text.isBlank_of_isDigit`). Among the digits are the ten plain ones, with their usual values, so a
number in its plain decimal form is read as that number (`readDigits_toDigits`).
-/

namespace NetPlan

namespace Text

theorem isDigitRun_iff {digits : List Char} :
    isDigitRun digits = true ↔ digits ≠ [] ∧ ∀ c ∈ digits, isDigit c = true := by
  simp [isDigitRun]

/-- A digit stands behind one of the zeros. -/
theorem exists_zero_of_isDigit {c : Char} (h : isDigit c = true) :
    ∃ z ∈ digitZeros, z ≤ c.toNat ∧ c.toNat < z + 10 := by
  rw [isDigit, digitValue?, Option.isSome_map] at h
  obtain ⟨z, hz⟩ := Option.isSome_iff_exists.mp h
  exact ⟨z, List.mem_of_find?_eq_some hz, by simpa using List.find?_some hz⟩

/-- No script has its digits among white space. -/
theorem isBlank_of_isDigit {c : Char} (h : isDigit c = true) : isBlank c = false := by
  obtain ⟨z, hz, hlow, hhigh⟩ := exists_zero_of_isDigit h
  have hapart : ∀ z ∈ digitZeros, ∀ r ∈ blankRanges, r.last < z ∨ z + 10 ≤ r.first := by decide
  rw [← Bool.not_eq_true, isBlank, inRanges, List.any_eq_true]
  rintro ⟨r, hr, hc⟩
  have hrange : r.first ≤ c.toNat ∧ c.toNat ≤ r.last := by simpa [CodeRange.contains] using hc
  have hout := hapart z hz r hr
  omega

theorem digitValue?_of_isDigit {c : Char} (h : c.isDigit = true) :
    digitValue? c = some (c.toNat - 48) := by
  have hlow : 48 ≤ c.toNat := by simpa using (Char.isDigit_iff_toNat.mp h).1
  have hhigh : c.toNat ≤ 57 := by simpa using (Char.isDigit_iff_toNat.mp h).2
  have hfind : digitZeros.find? (fun z => z ≤ c.toNat && c.toNat < z + 10) = some 48 := by
    rw [digitZeros, List.find?_cons_of_pos]
    simp only [Bool.and_eq_true, decide_eq_true_eq]
    omega
  rw [digitValue?, hfind, Option.map_some]

/-- The plain digits are digits. -/
theorem isDigit_of_mem_toDigits {n : Nat} {c : Char} (h : c ∈ Nat.toDigits 10 n) :
    isDigit c = true := by
  rw [isDigit, digitValue?_of_isDigit (Nat.isDigit_of_mem_toDigits (by decide) (by decide) h)]
  rfl

theorem isDigitRun_toDigits (n : Nat) : isDigitRun (Nat.toDigits 10 n) = true :=
  isDigitRun_iff.mpr ⟨Nat.toDigits_ne_nil, fun _ hc => isDigit_of_mem_toDigits hc⟩

/-- A number in plain decimal has its own value. -/
theorem digitRunValue_toDigits (n : Nat) : digitRunValue (Nat.toDigits 10 n) = n := by
  have hvalue : digitRunValue (Nat.toDigits 10 n) = Nat.ofDigitChars 10 (Nat.toDigits 10 n) 0 := by
    rw [Nat.ofDigitChars_eq_foldl]
    refine List.foldl_ext _ _ 0 fun m c hc => ?_
    rw [digitValue?_of_isDigit (Nat.isDigit_of_mem_toDigits (by decide) (by decide) hc)]
    rfl
  rw [hvalue, Nat.ofDigitChars_ten_toDigits]

/-- A power of ten has one digit more than its exponent. -/
theorem length_toDigits_pow (n : Nat) : (Nat.toDigits 10 (10 ^ n)).length = n + 1 := by
  have hlower : ¬(Nat.toDigits 10 (10 ^ n)).length ≤ n := fun h => by
    cases n with
    | zero => exact absurd h (by decide)
    | succ n =>
      have hlt := (Nat.length_toDigits_le_iff (by decide) (Nat.succ_pos n)).mp h
      exact absurd hlt (Nat.lt_irrefl _)
  have hupper : (Nat.toDigits 10 (10 ^ n)).length ≤ n + 1 :=
    (Nat.length_toDigits_le_iff (by decide) (Nat.succ_pos n)).mpr
      (Nat.pow_lt_pow_succ (by decide))
  omega

end Text

/-- A number that is not too long is read as it is written. -/
theorem readDigits_toDigits {n : Nat} (h : n < 10 ^ 20) :
    readDigits (Nat.toDigits 10 n) = .ok n := by
  have hlength : (Nat.toDigits 10 n).length ≤ 20 :=
    (Nat.length_toDigits_le_iff (by decide) (by decide)).mpr h
  have hshort : ¬maxDigits < (Nat.toDigits 10 n).length := by
    simp only [maxDigits]
    omega
  rw [readDigits, if_neg hshort, Text.digitRunValue_toDigits]

end NetPlan
