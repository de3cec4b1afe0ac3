import NetPlan.Proofs.Sheet.Line
import NetPlan.Proofs.Sheet.Value

/-!
# Values between quotes

A value can be written between quotes, each quote in it with a backslash put before it
(`Sheet.quotedValue`). Between them it may hold what would else end it or go away: comment signs,
white space at its ends, equals signs, quotes, or nothing at all.

The line `name = "value"` passes four readers. It has no terminator, so it stays one line; the
comment signs of its value stand where a quote is open, so nothing is cut off
(`Sheet.cutComment_quotedValue`); it is split behind the name; and taking the backslashes away gives
the value back. The one thing that a value must not have is a backslash at its end or before a quote
(`Sheet.KeepsQuotes`), which would take away the meaning of a quote, or of a backslash that is put
before one. Sheets of such lines are read as the entries that they were written for
(`Sheet.parse_quotedSheet`).
-/

namespace NetPlan

open Text

namespace Sheet

/-- The text with a backslash put before each quote. -/
def escapeQuotes (value : List Char) : List Char :=
  value.flatMap fun c => if c = '"' then escapedQuote else [c]

/-- The value between quotes. -/
def quotedValue (value : List Char) : List Char :=
  '"' :: (escapeQuotes value ++ ['"'])

/-- The line that gives a name its value between quotes. -/
def quotedLine (e : Entry) : List Char :=
  e.key.toList ++ ' ' :: '=' :: ' ' :: quotedValue e.value.toList

/-- The sheet of these lines, each ended by a line feed. -/
def quotedSheet (es : List Entry) : String :=
  String.ofList ((es.map quotedLine).flatMap (· ++ ['\n']))

/-- No backslash stands at the end or before a quote. -/
def KeepsQuotes (value : List Char) : Prop :=
  ¬['\\'] <:+ value ∧ ¬escapedQuote <:+: value

instance (value : List Char) : Decidable (KeepsQuotes value) :=
  inferInstanceAs (Decidable (_ ∧ _))

end Sheet

/-- An entry that keeps its meaning if its value is written between quotes. -/
structure Entry.IsQuotable (e : Entry) : Prop where
  key_ne : e.key ≠ ""
  key : ∀ c ∈ e.key.toList, isBlank c = false ∧ c ≠ '=' ∧ c ≠ '#' ∧ c ≠ '"'
  oneLine : ∀ c ∈ e.value.toList, isLineEnd c = false
  value : Sheet.KeepsQuotes e.value.toList

namespace Sheet

variable {c : Char} {value : List Char} {e : Entry}

/-! ### Escaping -/

theorem escapeQuotes_quote (value : List Char) :
    escapeQuotes ('"' :: value) = '\\' :: '"' :: escapeQuotes value := rfl

theorem escapeQuotes_cons (h : c ≠ '"') (value : List Char) :
    escapeQuotes (c :: value) = c :: escapeQuotes value := by
  rw [escapeQuotes, List.flatMap_cons, if_neg h]
  rfl

/-- Escaping adds no characters but backslashes. -/
theorem mem_escapeQuotes (h : c ∈ escapeQuotes value) : c ∈ value ∨ c = '\\' := by
  obtain ⟨d, hd, hc⟩ := List.mem_flatMap.mp h
  split at hc
  · rename_i hquote
    obtain rfl | rfl : c = '\\' ∨ c = '"' := by simpa [escapedQuote] using hc
    · exact .inr rfl
    · exact .inl (hquote ▸ hd)
  · obtain rfl := List.mem_singleton.mp hc
    exact .inl hd

/-- Escaping leaves the last character where it is. -/
theorem getLast?_escapeQuotes (value : List Char) :
    (escapeQuotes value).getLast? = value.getLast? := by
  cases value using List.reverseRecOn with
  | nil => rfl
  | append_singleton value c =>
    rw [escapeQuotes, List.flatMap_append, List.flatMap_singleton, List.getLast?_concat]
    split
    · rename_i hquote
      rw [hquote, escapedQuote, List.getLast?_append]
      rfl
    · exact List.getLast?_concat

theorem getLast?_quotedValue (value : List Char) : (quotedValue value).getLast? = some '"' := by
  rw [quotedValue, ← List.cons_append, List.getLast?_concat]

/-- A value between quotes has no white space at its ends. -/
theorem trim_quotedValue (value : List Char) : trim (quotedValue value) = quotedValue value := by
  have hquote : isBlank '"' = false := by decide
  refine trim_eq_self_of_ends ?_ ?_
  · simpa [quotedValue] using hquote
  · simpa [getLast?_quotedValue] using hquote

/-- A quote in an escaped text has a backslash before it, so the text does not start with one. -/
theorem head?_escapeQuotes_ne (value : List Char) : (escapeQuotes value).head? ≠ some '"' := by
  cases value with
  | nil => simp [escapeQuotes]
  | cons c value =>
    by_cases hc : c = '"'
    · subst hc
      simp [escapeQuotes_quote]
    · simpa [escapeQuotes_cons hc] using hc

/-- Taking away the backslashes before quotes undoes escaping, whatever backslashes there were. -/
theorem unescapeQuotes_escapeQuotes (value : List Char) :
    unescapeQuotes (escapeQuotes value) = value := by
  induction value with
  | nil => rfl
  | cons c value ih =>
    by_cases hc : c = '"'
    · subst hc
      rw [escapeQuotes_quote, unescapeQuotes, ih]
    · rw [escapeQuotes_cons hc, unescapeQuotes, ih]
      -- no quote follows a backslash of the value itself
      rintro rest - hrest
      exact head?_escapeQuotes_ne value (by rw [hrest]; rfl)

/-! ### Backslashes in values -/

namespace KeepsQuotes

theorem tail (h : KeepsQuotes (c :: value)) : KeepsQuotes value :=
  ⟨fun hend => h.1 (hend.trans (List.suffix_cons c value)),
    fun hinner => h.2 (hinner.trans (List.suffix_cons c value).isInfix)⟩

/-- Behind a backslash there is a character, and it is no quote. -/
theorem next (h : KeepsQuotes ('\\' :: value)) : ∃ d rest, value = d :: rest ∧ d ≠ '"' := by
  cases value with
  | nil => exact absurd (List.suffix_refl _) h.1
  | cons d rest =>
    refine ⟨d, rest, rfl, ?_⟩
    rintro rfl
    exact h.2 ⟨[], rest, rfl⟩

/-- Between quotes the value is closed: a backslash before the last quote would be its own. -/
theorem isClosed_quotedValue (h : KeepsQuotes value) : isClosed (quotedValue value) = true := by
  rw [quotedValue, ← List.cons_append, isClosed_concat_iff]
  refine ⟨List.cons_ne_nil '"' _, rfl, fun hbackslash => h.1 ?_⟩
  rw [List.getLast?_cons, getLast?_escapeQuotes] at hbackslash
  rw [List.singleton_suffix_iff_getLast?_eq_some]
  cases hvalue : value.getLast? with
  | none => simp [hvalue] at hbackslash
  | some c => simpa [hvalue] using hbackslash

/-- **A value between quotes stands for itself.** -/
theorem unquote?_quotedValue (h : KeepsQuotes value) :
    unquote? (quotedValue value) = some value := by
  have hclosed := h.isClosed_quotedValue
  rw [quotedValue] at hclosed ⊢
  simp only [unquote?, hclosed, if_true, List.dropLast_concat, unescapeQuotes_escapeQuotes]

end KeepsQuotes

/-! ### The comment cut -/

/-- Inside quotes the cut passes over an escaped value, and the next quote closes it. Behind an
active backslash this needs a character that is no quote. -/
theorem cutFrom_escapeQuotes (h : KeepsQuotes value) (escaped : Bool)
    (hnext : escaped = true → ∃ d rest, value = d :: rest ∧ d ≠ '"') (rest : List Char) :
    cutFrom true escaped (escapeQuotes value ++ '"' :: rest) =
      escapeQuotes value ++ '"' :: cutFrom false false rest := by
  induction value generalizing escaped with
  | nil =>
    cases escaped with
    | false => exact cutFrom_quote true rest
    | true =>
      obtain ⟨d, rest, hcons, -⟩ := hnext rfl
      cases hcons
  | cons c value ih =>
    have ih := ih h.tail
    by_cases hquote : c = '"'
    · -- a quote has its own backslash, which is active
      subst hquote
      obtain rfl : escaped = false := by
        rw [← Bool.not_eq_true]
        intro hescaped
        obtain ⟨d, rest, hcons, hd⟩ := hnext hescaped
        exact hd (List.cons.inj hcons).1.symm
      rw [escapeQuotes_quote, List.cons_append, List.cons_append, cutFrom_backslash,
        cutFrom_escaped, ih false nofun]
      rfl
    · rw [escapeQuotes_cons hquote, List.cons_append, List.cons_append]
      cases escaped with
      | true => rw [cutFrom_escaped, ih false nofun]
      | false =>
        by_cases hbackslash : c = '\\'
        · subst hbackslash
          rw [cutFrom_backslash, ih true fun _ => h.next]
        · rw [cutFrom_plain hbackslash hquote fun _ => rfl, ih false nofun]

/-- Nothing of the value is a comment. -/
theorem cutComment_quotedValue (h : KeepsQuotes value) :
    cutComment (quotedValue value) = quotedValue value := by
  have hnext : false = true → ∃ d rest, value = d :: rest ∧ d ≠ '"' := fun hescaped =>
    absurd hescaped Bool.false_ne_true
  rw [cutComment, quotedValue, cutFrom_quote, Bool.not_false, cutFrom_escapeQuotes h false hnext,
    cutFrom]

/-! ### Lines -/

theorem quotedLine_eq (e : Entry) :
    quotedLine e = assignmentLine e.key.toList (quotedValue e.value.toList) := rfl

/-- The line of an entry writes this entry. -/
theorem written?_quotedLine (h : e.IsQuotable) : written? (quotedLine e) = some e := by
  have hbare : IsBare e.key.toList := h.key
  have hne : e.key.toList ≠ [] := by simpa using h.key_ne
  rw [written?, essence, quotedLine_eq, cutComment_assignmentLine hbare,
    cutComment_quotedValue h.value, splitAssignment?_trim hbare hne, trim_quotedValue]
  simp only [h.value.unquote?_quotedValue, Option.bind_eq_bind, Option.bind_some,
    String.ofList_toList]
  rfl

theorem isLineEnd_quotedLine (h : e.IsQuotable) : ∀ c ∈ quotedLine e, isLineEnd c = false := by
  refine isLineEnd_assignmentLine h.key fun c hc => ?_
  simp only [quotedValue, List.mem_cons, List.mem_append, List.not_mem_nil, or_false] at hc
  obtain rfl | hc | rfl := hc
  · decide
  · obtain hc | rfl := mem_escapeQuotes hc
    · exact h.oneLine c hc
    · decide
  · decide

/-! ### Sheets -/

/-- **What is written between quotes is read back.** The lines of entries that can be so written are
read as these entries, in whatever text they are the lines of; and they are the lines of the sheet
that ends each of them by a line feed. -/
theorem parse_quotedSheet (es : List Entry) (hes : ∀ e ∈ es, e.IsQuotable) :
    (∀ text : String, splitLines text.toList = es.map quotedLine → parse text = .ok es) ∧
      splitLines (quotedSheet es).toList = es.map quotedLine ∧ parse (quotedSheet es) = .ok es := by
  have hgood : ∀ line ∈ es.map quotedLine, IsGood line := by
    rw [List.forall_mem_map]
    intro e he
    exact .inr (by rw [written?_quotedLine (hes e he), Option.isSome_some])
  have hwritten : (es.map quotedLine).filterMap written? = es := by
    rw [List.filterMap_map]
    exact
      (List.filterMap_congr fun e he => written?_quotedLine (hes e he)).trans List.filterMap_some
  have hread (text : String) (htext : splitLines text.toList = es.map quotedLine) :
      parse text = .ok es := by
    rw [parse_of_isGood (htext ▸ hgood), htext, hwritten]
  have hlines : splitLines (quotedSheet es).toList = es.map quotedLine := by
    rw [quotedSheet, String.toList_ofList, splitLines_flatMap]
    rw [List.forall_mem_map]
    exact fun e he => isLineEnd_quotedLine (hes e he)
  exact ⟨hread, hlines, hread _ hlines⟩

/-- Entries with what needs care: a name that ends in a backslash, a value with white space at its
ends, comment signs, quotes and backslashes of its own, and an empty value. -/
def awkward : List Entry :=
  [⟨"note\\", "  # a = \"b\" \\c\\\\d "⟩, ⟨"empty", ""⟩]

/-- Those entries are read back from a text with other line ends, and from their own sheet. -/
theorem parse_quotedSheet_awkward :
    (∀ e ∈ awkward, e.IsQuotable) ∧
      parse "note\\ = \"  # a = \\\"b\\\" \\c\\\\d \"\r\nempty = \"\"" = .ok awkward ∧
      parse (quotedSheet awkward) = .ok awkward := by
  have hquotable : ∀ e ∈ awkward, e.IsQuotable := by
    rw [awkward, List.forall_mem_cons, List.forall_mem_singleton]
    exact ⟨⟨by decide, List.forall_iff_forall_mem.mp (by decide),
        List.forall_iff_forall_mem.mp (by decide), by decide +kernel⟩,
      ⟨by decide, List.forall_iff_forall_mem.mp (by decide), List.forall_mem_nil _,
        by decide +kernel⟩⟩
  obtain ⟨hread, -, hsheet⟩ := parse_quotedSheet awkward hquotable
  exact ⟨hquotable, hread _ (by decide +kernel), hsheet⟩

end Sheet

end NetPlan
