import NetPlan.Proofs.Sheet.Activity
import NetPlan.Proofs.Sheet.Assignment

/-!
# Values as they are written

A value that starts with a quote ends where the line does. By the rule of the comment cut, the quote
that closes it is the first active one behind the opening one, and nothing should stand behind it
(`Sheet.ClosesAtEnd`, `Sheet.closesAtEnd_iff_cutComment`). But the value is taken if its last
character is a quote without a backslash before it (`Sheet.isClosed`), whatever stands between. The
two differ in two ways only (`Sheet.readLine_opened`): a value that closes at its end behind an even
run of backslashes is turned down, and a value that closes before its end is taken if it ends with
another such quote.

Any other value stands for itself, without its comment. The cut counts the quotes of such a value
and minds its backslashes too. So the comment starts at the first sign if that sign is not escaped
and stands behind an even number of active quotes, and only then (`Sheet.readLine_unquoted`).
-/

namespace NetPlan.Sheet

open Text

variable {c : Char} {name value body : List Char}

/-! ### Values that start with a quote -/

/-- The value starts with a quote; it stands on a line of its own, of which nothing is a comment or
goes away at the end. -/
structure IsOpened (value : List Char) : Prop where
  opens : value.head? = some '"'
  whole : '#' ∉ value
  oneLine : ∀ c ∈ value, isLineEnd c = false
  ends : ∀ c ∈ value.getLast?, isBlank c = false

/-- The first active quote behind the opening one is the last character. -/
def ClosesAtEnd (value : List Char) : Prop :=
  (activeQuotes value)[1]? = some (value.length - 1)

instance (value : List Char) : Decidable (ClosesAtEnd value) :=
  inferInstanceAs (Decidable (_ = _))

theorem escapesNext_of_getLast?_ne (h : body.getLast? ≠ some '\\') : escapesNext body = false := by
  cases body using List.reverseRecOn with
  | nil => rfl
  | append_singleton body c =>
    rw [List.getLast?_concat] at h
    rw [escapesNext_concat, beq_eq_false_iff_ne.mpr fun hc => h (congrArg some hc), Bool.false_and]

theorem lt_of_mem_activeQuotes {i : Nat} (h : i ∈ activeQuotes value) : i < value.length :=
  List.mem_range.mp (List.mem_of_mem_filter h)

/-- A value closes at its end if this is an active quote, and the second one. -/
theorem closesAtEnd_concat_iff :
    ClosesAtEnd (body ++ [c]) ↔
      c = '"' ∧ escapesNext body = false ∧ (activeQuotes body).length = 1 := by
  rw [ClosesAtEnd, activeQuotes_concat, List.length_append, List.length_singleton,
    Nat.add_sub_cancel, List.getElem?_append]
  constructor
  · intro h
    split at h
    · -- a quote inside is not at the end
      exact absurd (lt_of_mem_activeQuotes (List.mem_of_getElem? h)) (Nat.lt_irrefl _)
    · split at h
      · rename_i hlength hactive
        have hfirst : 1 - (activeQuotes body).length = 0 := by
          by_contra hne
          rw [List.getElem?_eq_none (by simp; omega)] at h
          cases h
        exact ⟨hactive.1, hactive.2, by omega⟩
      · cases h
  · rintro ⟨rfl, hescaped, hlength⟩
    rw [hlength, if_neg (Nat.lt_irrefl 1), if_pos ⟨rfl, hescaped⟩]
    rfl

theorem escapedQuote_suffix_concat_iff :
    escapedQuote <:+ body ++ [c] ↔ c = '"' ∧ body.getLast? = some '\\' := by
  rw [escapedQuote, List.suffix_concat_iff, ← List.singleton_suffix_iff_getLast?_eq_some]
  constructor
  · rintro (h | ⟨before, h, hbefore⟩)
    · cases h
    · have hsplit : ['\\'] ++ ['"'] = before ++ [c] := h
      obtain ⟨rfl, hc⟩ := List.append_inj' hsplit rfl
      exact ⟨(List.singleton_inj.mp hc).symm, hbefore⟩
  · rintro ⟨rfl, hbefore⟩
    exact .inr ⟨['\\'], rfl, hbefore⟩

theorem isClosed_concat_iff :
    isClosed (body ++ [c]) = true ↔ body ≠ [] ∧ c = '"' ∧ body.getLast? ≠ some '\\' := by
  have hlength : 2 ≤ (body ++ [c]).length ↔ body ≠ [] := by
    rw [List.length_append, List.length_singleton, ← List.length_pos_iff]
    omega
  rw [isClosed_iff, hlength, List.getLast?_concat, Option.some.injEq,
    escapedQuote_suffix_concat_iff]
  constructor
  · rintro ⟨hne, hquote, hfree⟩
    exact ⟨hne, hquote, fun hlast => hfree ⟨hquote, hlast⟩⟩
  · rintro ⟨hne, hquote, hlast⟩
    exact ⟨hne, hquote, fun hescaped => hlast hescaped.2⟩

/-- The rule is the one of the cut: a comment sign put behind the value starts a comment, and one
that is put behind a part of it, be it the opening quote alone, does not. -/
theorem closesAtEnd_iff_cutComment (hopens : value.head? = some '"') (hwhole : '#' ∉ value) :
    ClosesAtEnd value ↔ cutComment (value ++ ['#']) = value ∧
      ∀ part, part <+: value → part ≠ [] → part ≠ value → cutComment (part ++ ['#']) ≠ part := by
  have hcut (part : List Char) (hpart : part <+: value) :
      cutComment (part ++ ['#']) = part ↔ StartsComment part :=
    cutComment_append_sign_iff fun hsign => hwhole (hpart.subset hsign)
  rw [hcut value (List.prefix_refl value)]
  cases value using List.reverseRecOn with
  | nil => cases hopens
  | append_singleton body c =>
    rw [closesAtEnd_concat_iff]
    constructor
    · rintro ⟨rfl, hescaped, hlength⟩
      refine ⟨startsComment_concat_quote hescaped hlength, fun part hpart hne hproper hend => ?_⟩
      -- the opening quote is the only active one of the part, so it is still open
      have hbody : part <+: body := (List.prefix_concat_iff.mp hpart).resolve_left hproper
      obtain ⟨rest, hrest⟩ := hpart
      rw [← hrest, List.head?_append_of_ne_nil _ hne] at hopens
      have hone : (activeQuotes part).length = 1 :=
        le_antisymm (hlength ▸ length_activeQuotes_le hbody) (length_activeQuotes_pos hopens)
      have hclosed := ((hcut part ⟨rest, hrest⟩).mp hend).2
      rw [leavesOpen, hone] at hclosed
      cases hclosed
    · rintro ⟨⟨hescaped, hclosed⟩, hinner⟩
      have hne : body ≠ [] := by
        rintro rfl
        obtain rfl : c = '"' := Option.some.inj hopens
        exact absurd hclosed (by decide)
      rw [List.head?_append_of_ne_nil _ hne] at hopens
      have hlength : (activeQuotes body).length = 1 := by
        refine length_activeQuotes_eq_one hopens fun part hpart hne hstart => ?_
        have hproper : part ≠ body ++ [c] := fun heq => by
          have hlength := hpart.length_le
          rw [heq, List.length_append, List.length_singleton] at hlength
          exact Nat.not_succ_le_self _ hlength
        have hvalue := hpart.trans (List.prefix_append body [c])
        exact hinner part hvalue hne hproper ((hcut part hvalue).mpr hstart)
      rw [leavesOpen_concat, leavesOpen, hlength] at hclosed
      obtain ⟨hc, hescaped⟩ : c = '"' ∧ escapesNext body = false := by simpa using hclosed
      exact ⟨hc, hescaped, hlength⟩

/-- A value whose quote closes at the end is closed, unless a backslash stands before it. -/
theorem ClosesAtEnd.isClosed_iff (h : ClosesAtEnd value) :
    isClosed value = true ↔ ¬escapedQuote <:+ value := by
  cases value using List.reverseRecOn with
  | nil => cases h
  | append_singleton body c =>
    obtain ⟨rfl, -, hlength⟩ := closesAtEnd_concat_iff.mp h
    have hne : body ≠ [] := by
      rintro rfl
      cases hlength
    rw [isClosed_concat_iff, escapedQuote_suffix_concat_iff]
    simp [hne]

/-- The quote at the end of a closed value is active, so it is the one that closes if there are no
more than two. -/
theorem closesAtEnd_iff_of_isClosed (h : isClosed value = true) :
    ClosesAtEnd value ↔ (activeQuotes value).length = 2 := by
  cases value using List.reverseRecOn with
  | nil => cases h
  | append_singleton body c =>
    obtain ⟨-, rfl, hlast⟩ := isClosed_concat_iff.mp h
    have hescaped := escapesNext_of_getLast?_ne hlast
    rw [closesAtEnd_concat_iff, activeQuotes_concat, if_pos ⟨rfl, hescaped⟩, List.length_append,
      List.length_singleton]
    simp [hescaped]

/-- A value that starts with a quote is taken apart if it is closed, and else turned down. -/
theorem unquote?_opened (h : IsOpened value) :
    unquote? (trim (cutComment value)) =
      if isClosed value then some (unescapeQuotes value.tail.dropLast) else none := by
  obtain ⟨rest, rfl⟩ := List.head?_eq_some_iff.mp h.opens
  have htrim : trim ('"' :: rest) = '"' :: rest := by
    refine trim_eq_self_of_ends (fun c hc => ?_) h.ends
    obtain rfl : '"' = c := Option.some.inj hc
    decide
  rw [cutComment_eq_self h.whole, htrim]
  rfl

/-- **Where a quoted value ends.** A line whose value starts with a quote is taken if the value ends
with another quote that has no backslash before it. By the rule of the comment cut it should be
taken if the first active quote behind the opening one is the last character. The line goes by this
rule unless its value is turned down though it closes at the end, for the backslash before its last
quote, or is taken though it has more active quotes than two. -/
theorem readLine_opened (hname : IsBare name) (hvalue : IsOpened value) (number : Nat) :
    let line := assignmentLine name value
    readLine number line =
      (if name = [] then .error (.notAnAssignment number (String.ofList (essence line)))
      else if isClosed value then
        .ok (some ⟨String.ofList name, String.ofList (unescapeQuotes value.tail.dropLast)⟩)
      else .error (.unterminatedQuote number)) ∧
    parse (String.ofList line) = (readLine 1 line).map Option.toList ∧
    (ClosesAtEnd value ↔ cutComment (value ++ ['#']) = value ∧
      ∀ part, part <+: value → part ≠ [] → part ≠ value → cutComment (part ++ ['#']) ≠ part) ∧
    (name ≠ [] → (((∃ e, readLine number line = .ok (some e)) ↔ ClosesAtEnd value) ↔
      ¬(ClosesAtEnd value ∧ escapedQuote <:+ value) ∧
        ¬(isClosed value = true ∧ (activeQuotes value).length ≠ 2))) := by
  intro line
  have hread : readLine number line =
      if name = [] then .error (.notAnAssignment number (String.ofList (essence line)))
      else if isClosed value then
        .ok (some ⟨String.ofList name, String.ofList (unescapeQuotes value.tail.dropLast)⟩)
      else .error (.unterminatedQuote number) := by
    rw [readLine_assignmentLine hname, unquote?_opened hvalue]
    cases isClosed value <;> rfl
  refine ⟨hread, parse_assignmentLine hname hvalue.oneLine,
    closesAtEnd_iff_cutComment hvalue.opens hvalue.whole, fun hne => ?_⟩
  have htaken : (∃ e, readLine number line = .ok (some e)) ↔ isClosed value = true := by
    rw [hread, if_neg hne]
    cases isClosed value <;> simp
  rw [htaken]
  by_cases hclosed : isClosed value = true
  · have hfree (h : ClosesAtEnd value) : ¬escapedQuote <:+ value := h.isClosed_iff.mp hclosed
    simp only [hclosed, true_iff, true_and, ne_eq, ← closesAtEnd_iff_of_isClosed hclosed, not_not,
      not_and]
    exact ⟨fun h => ⟨hfree, h⟩, And.right⟩
  · have hescaped (h : ClosesAtEnd value) : escapedQuote <:+ value :=
      not_not.mp (mt h.isClosed_iff.mpr hclosed)
    simp only [iff_false_intro hclosed, false_iff, false_and, not_false_iff, and_true, not_and]
    exact ⟨fun h hend => absurd hend h, fun h hend => h hend (hescaped hend)⟩

/-- A value that closes at its end, behind two backslashes, is turned down. -/
theorem readLine_opened_doubled :
    IsBare ['n'] ∧ IsOpened ['"', '\\', '\\', '"'] ∧ ClosesAtEnd ['"', '\\', '\\', '"'] ∧
      ¬∃ e, readLine 7 (assignmentLine ['n'] ['"', '\\', '\\', '"']) = .ok (some e) := by
  have hname : IsBare ['n'] := List.forall_iff_forall_mem.mp (by decide)
  have hquote : isBlank '"' = false := by decide
  have hvalue : IsOpened ['"', '\\', '\\', '"'] :=
    { opens := rfl
      whole := by decide
      oneLine := List.forall_iff_forall_mem.mp (by decide)
      ends := by simpa using hquote }
  have hend : ClosesAtEnd ['"', '\\', '\\', '"'] := by decide
  obtain ⟨-, -, -, hrule⟩ := readLine_opened hname hvalue 7
  refine ⟨hname, hvalue, hend, fun htaken => ?_⟩
  exact ((hrule (by decide)).mp (iff_of_true htaken hend)).1 ⟨hend, by decide⟩

/-- Both ways to go astray: a value that closes behind two backslashes is turned down, and one that
closes before its end is taken. -/
theorem readLine_opened_apart :
    (ClosesAtEnd "\"a\\\\\"".toList ∧ parse "n = \"a\\\\\"" = .error (.unterminatedQuote 1)) ∧
      ¬ClosesAtEnd "\"a\"b\"".toList ∧ parse "n = \"a\"b\"" = .ok [⟨"n", "a\"b"⟩] := by
  decide +kernel

/-! ### Other values -/

theorem unquote?_of_head?_ne (h : value.head? ≠ some '"') : unquote? value = some value := by
  unfold unquote?
  split
  · exact absurd rfl h
  · rfl

/-- A value that does not start with a quote does not get one when it is cut. -/
theorem unquote?_unopened (h : (trimStart value).head? ≠ some '"') :
    unquote? (trim (cutComment value)) = some (trim (cutComment value)) :=
  unquote?_of_head?_ne fun hquote =>
    h (head?_trimStart_of_isPrefix (cutFrom_isPrefix false false value) hquote)

/-- The cut takes all behind the first comment sign if this sign starts a comment, and else leaves
it. -/
theorem trim_cutComment_iff (value : List Char) :
    trim (cutComment value) = trim (value.takeWhile (· != '#')) ↔
      ('#' ∈ value → StartsComment (value.takeWhile (· != '#'))) := by
  by_cases hsign : '#' ∈ value
  · obtain ⟨before, rest, rfl, hbefore⟩ := List.eq_append_cons_of_mem hsign
    have hfirst : (before ++ '#' :: rest).takeWhile (· != '#') = before := by
      refine (List.span_append ('#' :: rest) (fun c hc => ?_) (by simp)).1
      rw [bne_iff_ne]
      rintro rfl
      exact hbefore hc
    rw [hfirst]
    obtain ⟨hstart, hcut⟩ | ⟨hstart, more, hcut⟩ := cutComment_append hbefore rest
    · exact iff_of_true (by rw [hcut]) fun _ => hstart
    · refine iff_of_false (fun heq => hbefore ?_) fun h => hstart (h hsign)
      -- the sign that is left would stand in the text before it
      rw [hcut, trim_append_cons (by decide)] at heq
      exact (trim_isInfix before).subset (heq ▸ by simp)
  · have hwhole : value.takeWhile (· != '#') = value :=
      List.takeWhile_eq_self_iff.mpr fun c hc => bne_iff_ne.mpr fun h => hsign (h ▸ hc)
    rw [hwhole, cutComment_eq_self hsign]
    exact iff_of_true rfl fun h => absurd h hsign

/-- **Where the comment starts behind a value without quotes around it.** A line whose value does
not start with a quote gives its name the value up to its comment, without the white space around
it. This is what stands before the first comment sign, if that sign is not escaped and stands behind
an even number of active quotes, or if there is no sign, and else it is not. -/
theorem readLine_unquoted (hname : IsBare name) (hfirst : (trimStart value).head? ≠ some '"')
    (hline : ∀ c ∈ value, isLineEnd c = false) (number : Nat) :
    let line := assignmentLine name value
    let before := value.takeWhile (· != '#')
    readLine number line =
      (if name = [] then .error (.notAnAssignment number (String.ofList (essence line)))
      else .ok (some ⟨String.ofList name, String.ofList (trim (cutComment value))⟩)) ∧
    parse (String.ofList line) = (readLine 1 line).map Option.toList ∧
    (trim (cutComment value) = trim before ↔ ('#' ∈ value → StartsComment before)) := by
  intro line before
  refine ⟨?_, parse_assignmentLine hname hline, trim_cutComment_iff value⟩
  rw [readLine_assignmentLine hname, unquote?_unopened hfirst]

/-- Behind a quote that nothing closes, no sign starts a comment. -/
theorem readLine_unquoted_inches :
    IsBare ['n'] ∧ (trimStart "  5\" # \\#".toList).head? ≠ some '"' ∧
      (∀ c ∈ "  5\" # \\#".toList, isLineEnd c = false) ∧
      parse (String.ofList (assignmentLine ['n'] "  5\" # \\#".toList)) =
        .ok [⟨"n", "5\" # \\#"⟩] := by
  have hname : IsBare ['n'] := List.forall_iff_forall_mem.mp (by decide)
  have hfirst : (trimStart "  5\" # \\#".toList).head? ≠ some '"' := by decide
  have hline : ∀ c ∈ "  5\" # \\#".toList, isLineEnd c = false :=
    List.forall_iff_forall_mem.mp (by decide)
  obtain ⟨hread, hparse, -⟩ := readLine_unquoted hname hfirst hline 1
  refine ⟨hname, hfirst, hline, ?_⟩
  rw [hparse, hread]
  decide +kernel

/-- A quote that nothing closes and a backslash each keep a comment in the value. -/
theorem readLine_unquoted_hidden :
    parse "n = 5\" wide # c" = .ok [⟨"n", "5\" wide # c"⟩] ∧
      parse "n = a \\# c" = .ok [⟨"n", "a \\# c"⟩] := by
  decide +kernel

end NetPlan.Sheet
