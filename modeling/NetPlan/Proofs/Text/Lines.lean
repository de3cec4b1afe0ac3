import NetPlan.Text.Blank
import NetPlan.Text.Lines

/-!
# Lines and terminators

A text without terminators is one line, and what stands behind a terminator is cut by itself
(`splitLines_append`). So texts of which none has a terminator are the lines of the text in which
each of them is ended by a line feed (`splitLines_flatMap`). Every terminator is white space.

A line feed put behind any text separates it from what follows (`splitLines_append_lineFeed`): it
belongs to a carriage return that the text ends with, it ends the last line if that is open, and if
the text has just ended a line, it makes an empty one. And lines do not hang on which of the
terminators with a carriage return ends them (`splitLines_unifyNewlines`).
-/

namespace NetPlan.Text

variable {cs line : List Char} {lines : List (List Char)}

theorem isBlank_of_isLineEnd {c : Char} (h : isLineEnd c = true) : isBlank c = true := by
  simp only [isLineEnd, inRanges, lineEndRanges, isBlank, blankRanges, CodeRange.contains,
    List.any_cons, List.any_nil, Bool.or_false, Bool.or_eq_true, Bool.and_eq_true,
    decide_eq_true_eq] at h ⊢
  omega

/-- A character that ends no line stands at the start of the first one. -/
theorem splitLines_cons {c : Char} (hc : isLineEnd c = false) {rest : List Char}
    (h : splitLines rest = line :: lines) : splitLines (c :: rest) = (c :: line) :: lines := by
  have hreturn : c ≠ '\r' := by
    rintro rfl
    exact absurd hc (by decide)
  rw [splitLines]
  · simp [hc, h]
  · rintro _ rfl
    exact absurd rfl hreturn

/-- A terminator ends a line. A carriage return does so by itself if no line feed follows. -/
theorem splitLines_terminator {c : Char} (hc : isLineEnd c = true) {rest : List Char}
    (hrest : c = '\r' → rest.head? ≠ some '\n') :
    splitLines (c :: rest) = [] :: splitLines rest := by
  rw [splitLines]
  · simp [hc]
  · rintro rest' rfl rfl
    exact absurd rfl (hrest rfl)

theorem splitLines_lineFeed (rest : List Char) :
    splitLines ('\n' :: rest) = [] :: splitLines rest :=
  splitLines_terminator (by decide) fun h => absurd h (by decide)

/-- Only the empty text has no lines. -/
theorem splitLines_eq_nil_iff : splitLines cs = [] ↔ cs = [] := by
  constructor
  · intro h
    cases cs using splitLines.induct with
    | case1 => rfl
    | case2 rest => simp [splitLines] at h
    | case3 c rest hrest hc => simp [splitLines, hc] at h
    | case4 c rest hrest hc hlines => simp [splitLines, hc, hlines] at h
    | case5 c rest hrest hc line lines hlines => simp [splitLines, hc, hlines] at h
  · rintro rfl
    rfl

/-- A text without terminators that is not empty is one line. -/
theorem splitLines_of_line (hne : line ≠ []) (hline : ∀ c ∈ line, isLineEnd c = false) :
    splitLines line = [line] := by
  induction line with
  | nil => exact absurd rfl hne
  | cons c line ih =>
    obtain ⟨hc, hline⟩ := List.forall_mem_cons.mp hline
    cases line with
    | nil => simp [splitLines, hc]
    | cons d line => exact splitLines_cons hc (ih (List.cons_ne_nil d line) hline)

/-- A text is cut behind its first terminator. -/
theorem splitLines_append (hline : ∀ c ∈ line, isLineEnd c = false) {c : Char}
    (hc : isLineEnd c = true) {rest : List Char} (hrest : c = '\r' → rest.head? ≠ some '\n') :
    splitLines (line ++ c :: rest) = line :: splitLines rest := by
  induction line with
  | nil => exact splitLines_terminator hc hrest
  | cons d line ih =>
    obtain ⟨hd, hline⟩ := List.forall_mem_cons.mp hline
    exact splitLines_cons hd (ih hline)

/-- Texts without terminators are the lines of the text that ends each of them by a line feed. -/
theorem splitLines_flatMap (hlines : ∀ line ∈ lines, ∀ c ∈ line, isLineEnd c = false) :
    splitLines (lines.flatMap (· ++ ['\n'])) = lines := by
  induction lines with
  | nil => rfl
  | cons line lines ih =>
    obtain ⟨hline, hlines⟩ := List.forall_mem_cons.mp hlines
    have hfeed : '\n' ≠ '\r' := by decide
    rw [List.flatMap_cons, List.append_assoc, List.singleton_append,
      splitLines_append hline (by decide) fun h => absurd h hfeed, ih hlines]

/-! ### A line feed behind a text -/

/-- A carriage return that is not cut together with a line feed has none behind it. -/
private theorem head?_ne_lineFeed {c : Char}
    (h : ∀ rest, c = '\r' → cs = '\n' :: rest → False) : c = '\r' → cs.head? ≠ some '\n' := by
  intro hreturn hhead
  obtain ⟨rest, rfl⟩ := List.head?_eq_some_iff.mp hhead
  exact h rest hreturn rfl

/-- What stands behind a line feed is cut by itself. Before it stand the lines of the text that it
ends, and an empty one if that text has just ended a line or is empty. -/
theorem splitLines_append_lineFeed (cs : List Char) :
    ∃ more, (more = [] ∨ more = [[]]) ∧
      ∀ rest, splitLines (cs ++ '\n' :: rest) = splitLines cs ++ more ++ splitLines rest := by
  induction cs using splitLines.induct with
  | case1 => exact ⟨[[]], .inr rfl, splitLines_lineFeed⟩
  | case2 cs ih =>
    obtain ⟨more, hmore, hsplit⟩ := ih
    exact ⟨more, hmore, fun rest => congrArg ([] :: ·) (hsplit rest)⟩
  | case3 c cs hcs hc ih =>
    by_cases hlast : c = '\r' ∧ cs = []
    · -- the line feed and the carriage return before it are one terminator
      obtain ⟨rfl, rfl⟩ := hlast
      exact ⟨[], .inl rfl, fun rest => rfl⟩
    · have hnext (rest : List Char) : c = '\r' → (cs ++ '\n' :: rest).head? ≠ some '\n' := by
        intro hreturn
        have hne : cs ≠ [] := fun hnil => hlast ⟨hreturn, hnil⟩
        rw [List.head?_append, List.head?_eq_some_head hne, Option.some_or,
          ← List.head?_eq_some_head]
        exact head?_ne_lineFeed hcs hreturn
      obtain ⟨more, hmore, hsplit⟩ := ih
      refine ⟨more, hmore, fun rest => ?_⟩
      rw [List.cons_append, splitLines_terminator hc (hnext rest), hsplit,
        splitLines_terminator hc (head?_ne_lineFeed hcs)]
      rfl
  | case4 c cs hcs hc hlines ih =>
    obtain rfl := splitLines_eq_nil_iff.mp hlines
    have hline : ∀ d ∈ [c], isLineEnd d = false := by simpa using hc
    refine ⟨[], .inl rfl, fun rest => ?_⟩
    rw [splitLines_append hline (by decide) fun h => absurd h (by decide),
      splitLines_of_line (List.cons_ne_nil c []) hline]
    rfl
  | case5 c cs hcs hc line lines hlines ih =>
    obtain ⟨more, hmore, hsplit⟩ := ih
    rw [Bool.not_eq_true] at hc
    refine ⟨more, hmore, fun rest => ?_⟩
    have hrest := hsplit rest
    rw [hlines] at hrest
    rw [splitLines_cons hc hlines]
    exact splitLines_cons hc hrest

/-! ### Unified endings -/

/-- What is handed on from character to character is whether the text behind starts with a line
feed. -/
theorem foldr_pushUnified_fst (cs : List Char) :
    (cs.foldr pushUnified (false, [])).1 = true ↔ cs.head? = some '\n' := by
  cases cs with
  | nil => simp
  | cons c cs =>
    rw [List.foldr_cons, pushUnified, List.head?_cons, Option.some.injEq]
    split
    · rename_i hreturn
      simp [hreturn]
    · exact decide_eq_true_iff

theorem unifyNewlines_cons {c : Char} (hc : c ≠ '\r') (cs : List Char) :
    unifyNewlines (c :: cs) = c :: unifyNewlines cs := by
  rw [unifyNewlines, List.foldr_cons, pushUnified, if_neg hc]
  rfl

/-- A carriage return by itself becomes a line feed. -/
theorem unifyNewlines_return (hcs : cs.head? ≠ some '\n') :
    unifyNewlines ('\r' :: cs) = '\n' :: unifyNewlines cs := by
  rw [unifyNewlines, List.foldr_cons, pushUnified, if_pos rfl]
  exact if_neg (mt (foldr_pushUnified_fst cs).mp hcs)

theorem unifyNewlines_return_lineFeed (cs : List Char) :
    unifyNewlines ('\r' :: '\n' :: cs) = '\n' :: unifyNewlines cs := by
  rw [unifyNewlines, List.foldr_cons, pushUnified, if_pos rfl,
    if_pos ((foldr_pushUnified_fst ('\n' :: cs)).mpr rfl)]
  exact unifyNewlines_cons (by decide) cs

/-- Unifying the endings of lines leaves the lines as they are. -/
theorem splitLines_unifyNewlines (cs : List Char) :
    splitLines (unifyNewlines cs) = splitLines cs := by
  induction cs using splitLines.induct with
  | case1 => rfl
  | case2 cs ih => rw [unifyNewlines_return_lineFeed, splitLines_lineFeed, ih, splitLines]
  | case3 c cs hcs hc ih =>
    have hnext := head?_ne_lineFeed hcs
    rw [splitLines_terminator hc hnext]
    by_cases hreturn : c = '\r'
    · rw [hreturn, unifyNewlines_return (hnext hreturn), splitLines_lineFeed, ih]
    · rw [unifyNewlines_cons hreturn, splitLines_terminator hc fun h => absurd h hreturn, ih]
  | case4 c cs hcs hc hlines ih =>
    have hreturn : c ≠ '\r' := fun h => hc (h ▸ by decide)
    obtain rfl := splitLines_eq_nil_iff.mp hlines
    rw [unifyNewlines_cons hreturn]
    rfl
  | case5 c cs hcs hc line lines hlines ih =>
    have hreturn : c ≠ '\r' := fun h => hc (h ▸ by decide)
    rw [Bool.not_eq_true] at hc
    rw [unifyNewlines_cons hreturn, splitLines_cons hc (ih.trans hlines), splitLines_cons hc hlines]

end NetPlan.Text
