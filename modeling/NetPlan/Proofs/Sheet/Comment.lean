import NetPlan.Sheet.Comment

/-!
# Text that is no comment

The cut of a comment goes over a line character by character. What it does at a character hangs on
whether a quote is open and whether the character stands behind an active backslash, and there is
one lemma for each case. From them follow the texts that are passed over as a whole: where neither
comment signs nor quotes stand, nothing is cut off and no quote is opened or closed
(`cutFrom_plain_append`).
-/

namespace NetPlan.Sheet

variable {c : Char} {inQuote : Bool}

/-- Behind an active backslash no character means anything. -/
theorem cutFrom_escaped (inQuote : Bool) (c : Char) (rest : List Char) :
    cutFrom inQuote true (c :: rest) = c :: cutFrom inQuote false rest := rfl

theorem cutFrom_backslash (inQuote : Bool) (rest : List Char) :
    cutFrom inQuote false ('\\' :: rest) = '\\' :: cutFrom inQuote true rest := rfl

theorem cutFrom_quote (inQuote : Bool) (rest : List Char) :
    cutFrom inQuote false ('"' :: rest) = '"' :: cutFrom (!inQuote) false rest := rfl

/-- Other characters are kept, and a comment sign is one of them where a quote is open. -/
theorem cutFrom_plain (hbackslash : c ≠ '\\') (hquote : c ≠ '"') (hsign : c = '#' → inQuote = true)
    (rest : List Char) : cutFrom inQuote false (c :: rest) = c :: cutFrom inQuote false rest := by
  have hkept : ¬(c = '#' ∧ inQuote = false) := fun h => by simp [hsign h.1] at h
  rw [cutFrom, if_neg Bool.false_ne_true, if_neg hbackslash, if_neg hquote, if_neg hkept]

/-- What is left is a beginning of the text. -/
theorem cutFrom_isPrefix (inQuote escaped : Bool) (cs : List Char) :
    cutFrom inQuote escaped cs <+: cs := by
  induction cs generalizing inQuote escaped with
  | nil => exact List.prefix_refl []
  | cons c rest ih =>
    have hkept (inQuote escaped : Bool) : c :: cutFrom inQuote escaped rest <+: c :: rest :=
      (List.prefix_cons_inj c).mpr (ih inQuote escaped)
    rw [cutFrom]
    split
    · exact hkept inQuote false
    · split
      · exact hkept inQuote true
      · split
        · exact hkept (!inQuote) false
        · split
          · exact List.nil_prefix
          · exact hkept inQuote false

/-- A text with neither comment signs nor quotes is passed over. A backslash at its end takes away
the meaning of the character behind, which a blank does not have. -/
theorem cutFrom_plain_append {cs : List Char} (h : ∀ c ∈ cs, c ≠ '#' ∧ c ≠ '"')
    (inQuote escaped : Bool) (rest : List Char) :
    cutFrom inQuote escaped (cs ++ ' ' :: rest) = cs ++ ' ' :: cutFrom inQuote false rest := by
  induction cs generalizing escaped with
  | nil => cases escaped <;> rfl
  | cons c cs ih =>
    obtain ⟨⟨hsign, hquote⟩, hcs⟩ := List.forall_mem_cons.mp h
    rw [List.cons_append, List.cons_append]
    cases escaped with
    | true => rw [cutFrom_escaped, ih hcs]
    | false =>
      by_cases hbackslash : c = '\\'
      · rw [hbackslash, cutFrom_backslash, ih hcs]
      · rw [cutFrom_plain hbackslash hquote fun h => absurd h hsign, ih hcs]

end NetPlan.Sheet
