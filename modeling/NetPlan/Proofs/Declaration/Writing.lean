import NetPlan.Declaration.Basic
import NetPlan.Declaration.Dimensions
import NetPlan.Proofs.Declaration.Designation
import NetPlan.Proofs.Declaration.Reading
import NetPlan.Proofs.Text.Digit

/-!
# Texts that are written to be read

The name of a kind can stand in a designation, and is read as that kind (`Kind.isNameChar_name`,
`Kind.named_name`). A shape that is written as three plain numbers is read back
(`Shape.read_intercalate`).
-/

namespace NetPlan

open Text

/-! ### Names of kinds -/

theorem Kind.name_ne_empty (k : Kind) : k.name ≠ "" := by
  cases k <;> decide

/-- The name of a kind can stand in a designation. -/
theorem Kind.isNameChar_name (k : Kind) : ∀ c ∈ k.name.toList, Designation.isNameChar c = true := by
  refine List.all_eq_true.mp ?_
  cases k <;> decide

/-- The name of a kind is looked up as that kind. -/
@[simp]
theorem Kind.named_name (k : Kind) : Kind.named k.name = .ok k := by
  cases k <;> rfl

theorem Kind.eq_of_name_eq {k k' : Kind} (h : k.name = k'.name) : k = k' := by
  have hnamed : Kind.named k.name = .ok k' := h ▸ k'.named_name
  exact Except.ok.inj (k.named_name.symm.trans hnamed)

/-! ### Shapes -/

namespace Shape

/-- Three plain numbers with commas between them. -/
def plainDigits (c h w : Nat) : List Char :=
  Nat.toDigits 10 c ++ ',' :: (Nat.toDigits 10 h ++ ',' :: Nat.toDigits 10 w)

theorem trim_plainDigits (c h w : Nat) : trim (plainDigits c h w) = plainDigits c h w := by
  refine trim_eq_self fun a ha => ?_
  simp only [plainDigits, List.mem_append, List.mem_cons] at ha
  rcases ha with ha | rfl | ha | rfl | ha
  · exact isBlank_of_isDigit (isDigit_of_mem_toDigits ha)
  · decide
  · exact isBlank_of_isDigit (isDigit_of_mem_toDigits ha)
  · decide
  · exact isBlank_of_isDigit (isDigit_of_mem_toDigits ha)

/-- A plain number ends where a comma stands. -/
theorem span_toDigits (n : Nat) (rest : List Char) :
    (Nat.toDigits 10 n ++ ',' :: rest).takeWhile (· != ',') = Nat.toDigits 10 n ∧
      (Nat.toDigits 10 n ++ ',' :: rest).dropWhile (· != ',') = ',' :: rest := by
  have hinside : ∀ a ∈ Nat.toDigits 10 n, (a != ',') = true := by
    intro a ha
    rw [bne_iff_ne]
    rintro rfl
    exact absurd (isDigit_of_mem_toDigits ha) (by decide)
  exact List.span_append (',' :: rest) hinside (by simp)

/-- Three plain numbers with commas between them are told apart. -/
theorem parts?_plainDigits (c h w : Nat) :
    parts? (plainDigits c h w) =
      some (Nat.toDigits 10 c, Nat.toDigits 10 h, Nat.toDigits 10 w) := by
  obtain ⟨htake, hdrop⟩ := span_toDigits c (Nat.toDigits 10 h ++ ',' :: Nat.toDigits 10 w)
  obtain ⟨htake', hdrop'⟩ := span_toDigits h (Nat.toDigits 10 w)
  simp only [parts?, plainDigits, hdrop, hdrop', htake, htake', List.all_cons, List.all_nil,
    isDigitRun_toDigits, Bool.and_true, if_true]

/-- A shape is written as three plain numbers with commas between them. -/
theorem toList_intercalate (c h w : Nat) :
    (",".intercalate [toString (c : Int), toString (h : Int), toString (w : Int)]).toList =
      plainDigits c h w := by
  have hdigits (n : Nat) : (toString (n : Int)).toList = Nat.toDigits 10 n := Nat.toList_repr
  rw [String.toList_intercalate]
  simp only [List.map_cons, List.map_nil, hdigits]
  simp [List.intercalate, plainDigits]

/-- A shape that is written as plain numbers is read back. -/
theorem read_intercalate {s : Shape} (hs : s.InRange) :
    read (",".intercalate [toString s.channels, toString s.height, toString s.width]) = .ok s := by
  obtain ⟨channels, height, width⟩ := s
  obtain ⟨⟨hc, hc'⟩, ⟨hh, hh'⟩, hw, hw'⟩ := hs
  obtain ⟨c, rfl⟩ := Int.eq_ofNat_of_zero_le hc
  obtain ⟨h, rfl⟩ := Int.eq_ofNat_of_zero_le hh
  obtain ⟨w, rfl⟩ := Int.eq_ofNat_of_zero_le hw
  simp only [maxDimension] at hc' hh' hw'
  have hdigits {n : Nat} (hn : (n : Int) ≤ 4294967295) : readDigits (Nat.toDigits 10 n) = .ok n :=
    readDigits_toDigits (by omega)
  have hrange : ¬maxDimension < max (max (c : Int) h) w := by
    simp only [maxDimension]
    omega
  rw [read, toList_intercalate, trim_plainDigits, parts?_plainDigits]
  refine bind_eq_ok_iff.mpr ⟨c, hdigits hc', bind_eq_ok_iff.mpr ⟨h, hdigits hh',
    bind_eq_ok_iff.mpr ⟨w, hdigits hw', ?_⟩⟩⟩
  rw [if_neg hrange]

end Shape

end NetPlan
