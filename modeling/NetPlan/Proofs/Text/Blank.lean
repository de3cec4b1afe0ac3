import Mathlib.Data.List.DropRight
import Mathlib.Data.List.TakeWhile
import NetPlan.Proofs.List
import NetPlan.Text.Blank

/-!
# Words

A **word** is a text that is not empty and has no white space (`Text.IsWord`). Trimming takes a text
out of the white space around it and leaves the white space inside (`Text.trim_append_of_ends`), so
it leaves a text without white space as it is.
-/

namespace NetPlan.Text

/-- Whether a text is not empty and has no white space. -/
def IsWord (s : String) : Prop :=
  s ≠ "" ∧ ∀ c ∈ s.toList, isBlank c = false

theorem isWord_iff {s : String} : IsWord s ↔ s ≠ "" ∧ s.toList.all (!isBlank ·) = true := by
  simp only [IsWord, List.all_eq_true, Bool.not_eq_true']

instance (s : String) : Decidable (IsWord s) :=
  decidable_of_iff _ isWord_iff.symm

/-- Two words in a row are a word. -/
theorem IsWord.append {s t : String} (hs : IsWord s) (ht : IsWord t) : IsWord (s ++ t) := by
  refine ⟨fun h => hs.1 ?_, fun c hc => ?_⟩
  · rw [← String.toList_inj, String.toList_append] at h
    rw [← String.toList_inj]
    exact (List.append_eq_nil_iff.mp h).1
  · rw [String.toList_append, List.mem_append] at hc
    exact hc.elim (hs.2 c) (ht.2 c)

theorem trim_isInfix (cs : List Char) : trim cs <:+: cs :=
  have hend : trimEnd (trimStart cs) <+: trimStart cs := List.rdropWhile_prefix isBlank _
  hend.isInfix.trans (List.dropWhile_suffix isBlank).isInfix

/-- A text that does not start with white space keeps its start. -/
theorem trimStart_cons {c : Char} (h : isBlank c = false) (cs : List Char) :
    trimStart (c :: cs) = c :: cs := by
  rw [trimStart, List.dropWhile_cons, if_neg (by simp [h])]

theorem trim_cons {c : Char} (h : isBlank c = true) (cs : List Char) :
    trim (c :: cs) = trim cs := by
  rw [trim, trimStart, List.dropWhile_cons, if_pos h]
  rfl

/-- White space goes away from the end of a text, and all of a text that has nothing else. -/
theorem trimEnd_cons (c : Char) (cs : List Char) :
    trimEnd (c :: cs) = if trimEnd cs = [] ∧ isBlank c = true then [] else c :: trimEnd cs := by
  rw [trimEnd, List.reverse_cons, List.dropWhile_append]
  by_cases hcs : cs.reverse.dropWhile isBlank = []
  · cases hc : isBlank c <;> simp [hcs, hc, trimEnd]
  · simp [hcs, trimEnd]

/-- What stands before a character that is not white space stays. -/
theorem trimEnd_append_cons {c : Char} (h : isBlank c = false) (lead rest : List Char) :
    trimEnd (lead ++ c :: rest) = lead ++ c :: trimEnd rest := by
  induction lead with
  | nil => rw [List.nil_append, trimEnd_cons, if_neg (by simp [h]), List.nil_append]
  | cons d lead ih => rw [List.cons_append, trimEnd_cons, ih, if_neg (by simp), List.cons_append]

/-- What stands behind a character that is not white space stays. -/
theorem trimStart_append_cons {c : Char} (h : isBlank c = false) (lead rest : List Char) :
    trimStart (lead ++ c :: rest) = trimStart lead ++ c :: rest := by
  rw [trimStart, List.dropWhile_append]
  split
  · rename_i hempty
    rw [trimStart, List.isEmpty_iff.mp hempty]
    exact trimStart_cons h rest
  · rfl

/-- What is not white space keeps what stands between. -/
theorem trim_append_cons {c : Char} (h : isBlank c = false) (lead rest : List Char) :
    trim (lead ++ c :: rest) = trimStart lead ++ c :: trimEnd rest := by
  rw [trim, trimStart_append_cons h, trimEnd_append_cons h]

/-- White space goes away from the two ends in either order. -/
theorem trimStart_trimEnd (cs : List Char) : trimStart (trimEnd cs) = trimEnd (trimStart cs) := by
  induction cs with
  | nil => rfl
  | cons c cs ih =>
    cases hc : isBlank c with
    | false => rw [trimStart_cons hc, trimEnd_cons, if_neg (by simp [hc]), trimStart_cons hc]
    | true =>
      have hstart (cs : List Char) : trimStart (c :: cs) = trimStart cs := by
        rw [trimStart, List.dropWhile_cons, if_pos hc, trimStart]
      rw [hstart, ← ih, trimEnd_cons]
      split
      · rename_i hblank
        rw [hblank.1]
      · exact hstart _

theorem trim_trimEnd (cs : List Char) : trim (trimEnd cs) = trim cs := by
  rw [trim, trimStart_trimEnd]
  exact List.rdropWhile_idempotent isBlank (trimStart cs)

/-- The first character that is not white space is the same in a text and in each beginning of it
that reaches it. -/
theorem head?_trimStart_of_isPrefix {before cs : List Char} {c : Char} (h : before <+: cs)
    (hc : (trim before).head? = some c) : (trimStart cs).head? = some c := by
  obtain ⟨rest, rfl⟩ := h
  obtain ⟨core, hcore⟩ := List.head?_eq_some_iff.mp hc
  obtain ⟨trail, hstart⟩ : trim before <+: trimStart before := List.rdropWhile_prefix isBlank _
  rw [hcore, trimStart] at hstart
  rw [trimStart, List.dropWhile_append, ← hstart]
  rfl

/-- White space behind a text goes away, if the text does not end with white space. -/
theorem trimEnd_append {core trail : List Char} (hlast : ∀ c ∈ core.getLast?, isBlank c = false)
    (htrail : ∀ c ∈ trail, isBlank c = true) : trimEnd (core ++ trail) = core := by
  have hreverse : ∀ c ∈ trail.reverse, isBlank c = true := fun c hc =>
    htrail c (List.mem_reverse.mp hc)
  rw [← List.head?_reverse] at hlast
  rw [trimEnd, List.reverse_append, (List.span_append core.reverse hreverse hlast).2,
    List.reverse_reverse]

/-- White space around a text goes away, if the text neither starts nor ends with white space. -/
theorem trim_append_of_ends {lead core trail : List Char} (hlead : ∀ c ∈ lead, isBlank c = true)
    (hfirst : ∀ c ∈ core.head?, isBlank c = false) (hlast : ∀ c ∈ core.getLast?, isBlank c = false)
    (htrail : ∀ c ∈ trail, isBlank c = true) : trim (lead ++ core ++ trail) = core := by
  have hend : trimEnd (core ++ trail) = core := trimEnd_append hlast htrail
  rw [trim, trimStart, List.append_assoc, List.dropWhile_append_of_pos hlead]
  cases core with
  | nil =>
    -- white space alone goes away from the start
    rw [List.nil_append, List.dropWhile_eq_nil_iff.mpr htrail]
    rfl
  | cons c core =>
    have hc : isBlank c = false := hfirst c rfl
    rw [List.cons_append, List.dropWhile_cons, if_neg (by simp [hc]), ← List.cons_append, hend]

/-- White space at the ends of a text that has none goes away. -/
theorem trim_append {lead core trail : List Char} (hlead : ∀ c ∈ lead, isBlank c = true)
    (hcore : ∀ c ∈ core, isBlank c = false) (htrail : ∀ c ∈ trail, isBlank c = true) :
    trim (lead ++ core ++ trail) = core :=
  trim_append_of_ends hlead (fun c hc => hcore c (List.mem_of_mem_head? hc))
    (fun c hc => hcore c (List.mem_of_mem_getLast? hc)) htrail

theorem trim_eq_self_of_ends {cs : List Char} (hfirst : ∀ c ∈ cs.head?, isBlank c = false)
    (hlast : ∀ c ∈ cs.getLast?, isBlank c = false) : trim cs = cs := by
  have htrim := trim_append_of_ends (List.forall_mem_nil _) hfirst hlast (List.forall_mem_nil _)
  rwa [List.nil_append, List.append_nil] at htrim

theorem trim_eq_self {cs : List Char} (h : ∀ c ∈ cs, isBlank c = false) : trim cs = cs :=
  trim_eq_self_of_ends (fun c hc => h c (List.mem_of_mem_head? hc))
    fun c hc => h c (List.mem_of_mem_getLast? hc)

/-- A text that is not white space throughout is what trimming leaves, between the white space at
its ends. -/
theorem eq_append_trim {cs : List Char} (h : trim cs ≠ []) :
    cs = cs.takeWhile isBlank ++ trim cs ++ cs.rtakeWhile isBlank := by
  have hstart : cs.takeWhile isBlank ++ trimStart cs = cs := List.takeWhile_append_dropWhile
  have hend : trim cs ++ (trimStart cs).rtakeWhile isBlank = trimStart cs :=
    List.rdropWhile_append_rtakeWhile
  -- the white space at the end does not reach beyond the text itself
  have hstop : (trimStart cs).reverse.takeWhile isBlank ≠ (trimStart cs).reverse := by
    intro hall
    have hblank : ∀ c ∈ trimStart cs, isBlank c = true := fun c hc =>
      List.takeWhile_eq_self_iff.mp hall c (List.mem_reverse.mpr hc)
    exact h (List.rdropWhile_eq_nil_iff.mpr hblank)
  have htrail : cs.rtakeWhile isBlank = (trimStart cs).rtakeWhile isBlank := by
    conv_lhs => rw [← hstart]
    rw [List.rtakeWhile, List.reverse_append, List.takeWhile_append, if_neg]
    · rfl
    · intro hlength
      exact hstop ((List.takeWhile_prefix isBlank).eq_of_length hlength)
  rw [htrail, List.append_assoc, hend, hstart]

end NetPlan.Text
