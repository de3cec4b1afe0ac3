import Mathlib.Data.List.Infix
import NetPlan.Proofs.Sheet.Assignment
import NetPlan.Proofs.Sheet.Line

/-!
# The grammar of lines

What a line of a sheet means can be told without a reader. Once its comment is cut off and it is
trimmed, a line that is not empty is an **assignment** if there is one word before its first equals
sign (`Sheet.IsAssignment`). The word is its name, and what stands behind the sign is its value. The
line is **proper** if the value is also closed where it starts with a quote (`Sheet.IsProper`).

* `Sheet.splitAssignment?_eq` puts the split of a text in terms of its first equals sign.
* `Sheet.unescapeQuotes_eq_iff` says what taking backslashes away before quotes comes to: the text
  is cut at its escaped quotes and put together again with quotes.
* `Sheet.feed_exact` gives the feed of any text in these terms.
-/

namespace NetPlan.Sheet

open Text

/-! ### Names and values -/

/-- What stands before the first equals sign, without the white space at its end. -/
def nameOf (text : List Char) : List Char :=
  trimEnd (text.takeWhile (· != '='))

/-- What stands behind the first equals sign, without the white space at its ends. -/
def valueOf (text : List Char) : List Char :=
  trim (text.dropWhile (· != '=')).tail

/-- The text has an equals sign, and a word before the first one. -/
structure IsAssignment (text : List Char) : Prop where
  equals : '=' ∈ text
  named : nameOf text ≠ []
  word : ∀ c ∈ nameOf text, isBlank c = false

/-- If the value starts with a quote, another quote ends it, and no backslash stands before that. -/
def EndsWell (value : List Char) : Prop :=
  value.head? = some '"' →
    2 ≤ value.length ∧ value.getLast? = some '"' ∧ ¬escapedQuote <:+ value

/-- The text is an assignment of a value that is closed if it is quoted. -/
def IsProper (text : List Char) : Prop :=
  IsAssignment text ∧ EndsWell (valueOf text)

theorem isAssignment_iff {text : List Char} :
    IsAssignment text ↔
      (text.contains '=' && (!(nameOf text).isEmpty && (nameOf text).all (!isBlank ·))) = true := by
  simp only [Bool.and_eq_true, List.contains_iff_mem, Bool.not_eq_true', List.isEmpty_eq_false_iff,
    List.all_eq_true]
  exact ⟨fun h => ⟨h.equals, h.named, h.word⟩, fun ⟨hequals, hnamed, hword⟩ =>
    ⟨hequals, hnamed, hword⟩⟩

instance (text : List Char) : Decidable (IsAssignment text) :=
  decidable_of_iff _ isAssignment_iff.symm

instance (value : List Char) : Decidable (EndsWell value) :=
  inferInstanceAs (Decidable (_ → _))

instance (text : List Char) : Decidable (IsProper text) :=
  inferInstanceAs (Decidable (_ ∧ _))

/-- What a value stands for: itself, or what stands between its quotes, with the backslashes before
quotes taken away. -/
def plainOf (value : List Char) : List Char :=
  if value.head? = some '"' then unescapeQuotes value.tail.dropLast else value

/-- The entry that a proper text writes. -/
def entryOf (text : List Char) : Entry :=
  ⟨String.ofList (nameOf text), String.ofList (plainOf (valueOf text))⟩

/-- The fault of a text that is neither empty nor proper, if it is the line of some number. -/
def faultOf (number : Nat) (text : List Char) : Fault :=
  if IsAssignment text then .unterminatedQuote number else .notAnAssignment number (String.ofList text)

variable {text name value blanks after line : List Char} {number : Nat}

/-- The parts of a text of this form are those at its first equals sign. -/
theorem parts_at_equals (after : List Char) (hname : ∀ c ∈ name, isNameChar c = true)
    (hblanks : ∀ c ∈ blanks, isBlank c = true) :
    nameOf (name ++ blanks ++ '=' :: after) = name ∧
      valueOf (name ++ blanks ++ '=' :: after) = trim after := by
  have hbefore : ∀ c ∈ name ++ blanks, (c != '=') = true := by
    intro c hc
    rw [bne_iff_ne]
    rintro rfl
    rcases List.mem_append.mp hc with hc | hc
    · exact absurd (hname _ hc) (by decide)
    · exact absurd (hblanks _ hc) (by decide)
  obtain ⟨htake, hdrop⟩ := List.span_append ('=' :: after) hbefore (by simp)
  have hlast : ∀ c ∈ name.getLast?, isBlank c = false := fun c hc =>
    (isNameChar_iff.mp (hname c (List.mem_of_mem_getLast? hc))).2
  constructor
  · rw [nameOf, htake, trimEnd_append hlast hblanks]
  · rw [valueOf, hdrop, List.tail_cons]

/-- An assignment has this form, for the name and the value at its first equals sign. -/
theorem IsAssignment.exists_parts (h : IsAssignment text) :
    ∃ blanks after, text = nameOf text ++ blanks ++ '=' :: after ∧
      (∀ c ∈ nameOf text, isNameChar c = true) ∧ (∀ c ∈ blanks, isBlank c = true) ∧
      valueOf text = trim after := by
  obtain ⟨before, after, htext, hbefore⟩ := List.eq_append_cons_of_mem h.equals
  have hinside : ∀ c ∈ before, (c != '=') = true := fun c hc => by
    rw [bne_iff_ne]
    rintro rfl
    exact hbefore hc
  obtain ⟨htake, hdrop⟩ := List.span_append ('=' :: after) hinside (by simp)
  rw [← htext] at htake hdrop
  -- the name is what stands before the sign, but for the white space between them
  have hsplit : nameOf text ++ before.rtakeWhile isBlank = before := by
    rw [nameOf, htake]
    exact List.rdropWhile_append_rtakeWhile
  refine ⟨before.rtakeWhile isBlank, after, ?_, fun c hc => ?_, fun c hc => ?_, ?_⟩
  · rw [hsplit, htext]
  · have hmem : c ∈ before := hsplit ▸ List.mem_append_left _ hc
    exact isNameChar_iff.mpr ⟨bne_iff_ne.mp (hinside c hmem), h.word c hc⟩
  · exact List.mem_rtakeWhile_imp hc
  · rw [valueOf, hdrop, List.tail_cons]

/-- Assignments are split at their first equals sign, and no other texts are. -/
theorem splitAssignment?_eq (text : List Char) :
    splitAssignment? text =
      if IsAssignment text then some (nameOf text, valueOf text) else none := by
  split
  · rename_i h
    obtain ⟨blanks, after, htext, hname, hblanks, hvalue⟩ := h.exists_parts
    exact splitAssignment?_eq_some_iff.mpr ⟨blanks, after, htext, h.named, hname, hblanks, hvalue⟩
  · rename_i h
    cases hsplit : splitAssignment? text with
    | none => rfl
    | some parts =>
      obtain ⟨name, value⟩ := parts
      obtain ⟨blanks, after, rfl, hne, hname, hblanks, -⟩ := splitAssignment?_eq_some_iff.mp hsplit
      obtain ⟨hnameOf, -⟩ := parts_at_equals after hname hblanks
      refine absurd ⟨by simp, ?_, ?_⟩ h
      · rw [hnameOf]
        exact hne
      · rw [hnameOf]
        exact fun c hc => (isNameChar_iff.mp (hname c hc)).2

/-! ### Values -/

/-- A value is taken for what it stands for, if it ends well, and else not at all. -/
theorem unquote?_eq (value : List Char) :
    unquote? value = if EndsWell value then some (plainOf value) else none := by
  unfold unquote? plainOf EndsWell
  split
  · simp only [List.head?_cons, true_imp_iff, if_true, isClosed_iff, List.tail_cons]
  · rename_i hopen
    have hne : value.head? ≠ some '"' := fun h => by
      obtain ⟨rest, rfl⟩ := List.head?_eq_some_iff.mp h
      exact hopen rest rfl
    simp only [hne, false_imp_iff, if_true, if_false]

/-- Up to an escaped quote a text without any stays as it is. -/
theorem unescapeQuotes_append
    {piece : List Char} (h : ¬escapedQuote <:+: piece) (rest : List Char) :
    unescapeQuotes (piece ++ escapedQuote ++ rest) = piece ++ '"' :: unescapeQuotes rest ∧
      unescapeQuotes piece = piece := by
  induction piece with
  | nil => exact ⟨rfl, rfl⟩
  | cons c piece ih =>
    obtain ⟨ihrest, ihself⟩ := ih fun hinner => h (hinner.trans (List.suffix_cons c piece).isInfix)
    -- a quote behind a backslash would be one that is escaped
    have hnext : c = '\\' → ∀ more, piece ≠ '"' :: more := by
      rintro rfl more rfl
      exact h ⟨[], more, rfl⟩
    constructor
    · rw [List.cons_append, List.cons_append, unescapeQuotes, ihrest, List.cons_append]
      rintro more rfl hmore
      cases piece with
      | nil => cases hmore
      | cons d piece =>
        obtain ⟨rfl, -⟩ := List.cons.inj hmore
        exact hnext rfl piece rfl
    · rw [unescapeQuotes, ihself]
      rintro more rfl
      exact hnext rfl more

/-- Pieces without escaped quotes that are put together with escaped quotes between them are put
together with quotes instead. -/
theorem unescapeQuotes_intercalate {pieces : List (List Char)}
    (h : ∀ piece ∈ pieces, ¬escapedQuote <:+: piece) :
    unescapeQuotes (escapedQuote.intercalate pieces) = ['"'].intercalate pieces := by
  induction pieces with
  | nil => rfl
  | cons piece pieces ih =>
    obtain ⟨hpiece, hpieces⟩ := List.forall_mem_cons.mp h
    cases pieces with
    | nil =>
      rw [List.intercalate_singleton, List.intercalate_singleton]
      exact (unescapeQuotes_append hpiece []).2
    | cons next pieces =>
      rw [List.intercalate_cons_cons, List.intercalate_cons_cons, ← ih hpieces,
        (unescapeQuotes_append hpiece _).1, List.append_assoc, List.singleton_append]

/-- Every text is made of such pieces. -/
theorem exists_pieces (value : List Char) :
    ∃ piece pieces, (∀ p ∈ piece :: pieces, ¬escapedQuote <:+: p) ∧
      value = escapedQuote.intercalate (piece :: pieces) := by
  have hnil : ¬escapedQuote <:+: [] := by decide
  fun_induction unescapeQuotes value with
  | case1 => exact ⟨[], [], List.forall_mem_singleton.mpr hnil, rfl⟩
  | case2 rest ih =>
    obtain ⟨piece, pieces, hpieces, rfl⟩ := ih
    exact ⟨[], piece :: pieces, List.forall_mem_cons.mpr ⟨hnil, hpieces⟩, rfl⟩
  | case3 c rest hplain ih =>
    obtain ⟨piece, pieces, hpieces, rfl⟩ := ih
    obtain ⟨hpiece, hrest⟩ := List.forall_mem_cons.mp hpieces
    have hjoin (piece : List Char) :
        ∃ more, escapedQuote.intercalate (piece :: pieces) = piece ++ more := by
      cases pieces with
      | nil => exact ⟨[], by rw [List.intercalate_singleton, List.append_nil]⟩
      | cons next pieces => exact ⟨_, by rw [List.intercalate_cons_cons, List.append_assoc]⟩
    refine ⟨c :: piece, pieces, List.forall_mem_cons.mpr ⟨fun hinner => ?_, hrest⟩, ?_⟩
    · rcases List.infix_cons_iff.mp hinner with hstart | hinner
      · obtain ⟨more, hmore⟩ := hstart
        obtain ⟨hc, hmore⟩ := List.cons.inj hmore
        obtain ⟨rest, hrest⟩ := hjoin piece
        exact hplain (more ++ rest) hc.symm (by rw [hrest, ← hmore]; rfl)
      · exact hpiece hinner
    · cases pieces with
      | nil => rw [List.intercalate_singleton, List.intercalate_singleton]
      | cons next pieces => rw [List.intercalate_cons_cons, List.intercalate_cons_cons]; rfl

/-- Taking the backslashes before quotes away is to cut the text at its escaped quotes and to put
the pieces together again with quotes. -/
theorem unescapeQuotes_eq_iff {plain : List Char} :
    unescapeQuotes value = plain ↔
      ∃ pieces, (∀ piece ∈ pieces, ¬escapedQuote <:+: piece) ∧
        value = escapedQuote.intercalate pieces ∧ plain = ['"'].intercalate pieces := by
  constructor
  · rintro rfl
    obtain ⟨piece, pieces, hpieces, rfl⟩ := exists_pieces value
    exact ⟨piece :: pieces, hpieces, rfl, unescapeQuotes_intercalate hpieces⟩
  · rintro ⟨pieces, hpieces, rfl, rfl⟩
    exact unescapeQuotes_intercalate hpieces

/-! ### Lines -/

/-- A line writes an entry if it is proper, and the entry is told by its first equals sign. -/
theorem written?_eq (line : List Char) :
    written? line = if IsProper (essence line) then some (entryOf (essence line)) else none := by
  rw [written?, splitAssignment?_eq]
  by_cases hassign : IsAssignment (essence line)
  · simp only [hassign, if_true, Option.bind_eq_bind, Option.bind_some, unquote?_eq, IsProper,
      true_and]
    split <;> rfl
  · simp [hassign, IsProper]

theorem isGood_iff : IsGood line ↔ essence line = [] ∨ IsProper (essence line) := by
  rw [IsGood, written?_eq]
  split <;> simp [*]

/-- The fault of a line that cannot be read says whether its name or its value is to blame. -/
theorem readLine_of_not_isProper (hne : essence line ≠ []) (h : ¬IsProper (essence line))
    (number : Nat) : readLine number line = .error (faultOf number (essence line)) := by
  simp only [readLine, List.isEmpty_iff, hne, if_false, splitAssignment?_eq, faultOf]
  by_cases hassign : IsAssignment (essence line)
  · have hopen : ¬EndsWell (valueOf (essence line)) := fun hvalue => h ⟨hassign, hvalue⟩
    simp [hassign, unquote?_eq, hopen]
  · simp [hassign]

theorem not_isProper_nil : ¬IsProper [] := fun h => List.not_mem_nil h.1.equals

/-- What good lines write are the entries of those that are not empty. -/
theorem filterMap_written? {lines : List (List Char)} (h : ∀ line ∈ lines, IsGood line) :
    lines.filterMap written? = ((lines.map essence).filter (· ≠ [])).map entryOf := by
  induction lines with
  | nil => rfl
  | cons line lines ih =>
    obtain ⟨hline, hlines⟩ := List.forall_mem_cons.mp h
    rw [List.map_cons]
    rcases isGood_iff.mp hline with hempty | hproper
    · have hnone : written? line = none := by
        rw [written?_eq, hempty, if_neg not_isProper_nil]
      rw [List.filterMap_cons_none hnone, ih hlines, hempty]
      rfl
    · have hne : essence line ≠ [] := fun hempty => not_isProper_nil (hempty ▸ hproper)
      have hsome : written? line = some (entryOf (essence line)) := by
        rw [written?_eq, if_pos hproper]
      rw [List.filterMap_cons_some hsome, ih hlines, List.filter_cons_of_pos (by simpa using hne),
        List.map_cons]

/-- **What a sheet writes, and where it is bad.** Take the lines of any text, each without its
comment and the white space around it. A line is fine if it is empty, or proper. The lines before
the first one that is not fine give one entry each, in order, but for the empty ones: the word
before the first equals sign, and what the value behind it stands for, where a quoted value loses
its quotes and has a quote for each escaped quote. If all lines are fine, this is all. Else the feed
ends with a fault that gives the number of that line, counted from one over all lines. -/
theorem feed_exact (text : String) :
    let texts := (splitLines text.toList).map essence
    let fine := texts.takeWhile fun t => t = [] ∨ IsProper t
    (feed text).entries = (fine.filter (· ≠ [])).map entryOf ∧
    (feed text).fault = texts[fine.length]?.map (faultOf (fine.length + 1)) ∧
    (∀ number t, (faultOf number t).category = .sheet ∧ (faultOf number t).line? = some number) ∧
    ∀ value plain, unescapeQuotes value = plain ↔
      ∃ pieces, (∀ piece ∈ pieces, ¬escapedQuote <:+: piece) ∧
        value = escapedQuote.intercalate pieces ∧ plain = ['"'].intercalate pieces := by
  intro texts fine
  have hfine {lines : List (List Char)} (h : ∀ line ∈ lines, IsGood line) :
      ∀ t ∈ lines.map essence, decide (t = [] ∨ IsProper t) = true :=
    List.forall_mem_map.mpr fun line hline => decide_eq_true (isGood_iff.mp (h line hline))
  have hfeed : (feed text).entries = (fine.filter (· ≠ [])).map entryOf ∧
      (feed text).fault = texts[fine.length]?.map (faultOf (fine.length + 1)) := by
    obtain ⟨hgood, hlines⟩ | ⟨good, bad, rest, f, hlines, hgood, hbad, hread, hbroken⟩ :=
      feedLines_cases 1 (splitLines text.toList)
    · have hall : fine = texts := List.takeWhile_eq_self_iff.mpr (hfine hgood)
      rw [hall, List.getElem?_eq_none (Nat.le_refl _), feed, hlines]
      exact ⟨filterMap_written? hgood, rfl⟩
    · obtain ⟨hempty, hproper⟩ := not_or.mp (mt isGood_iff.mpr hbad)
      have htexts : texts = good.map essence ++ essence bad :: rest.map essence := by
        simp only [texts, hlines, List.map_append, List.map_cons]
      have hstop : fine = good.map essence := by
        simp only [fine, htexts]
        refine (List.span_append _ (hfine hgood) fun t ht => ?_).1
        obtain rfl := Option.some.inj ht
        exact decide_eq_false (not_or.mpr ⟨hempty, hproper⟩)
      have hfault : f = faultOf (good.length + 1) (essence bad) := by
        have hread' := readLine_of_not_isProper hempty hproper (1 + good.length)
        rw [hread] at hread'
        rw [Except.error.inj hread', Nat.add_comm]
      have hbadText : texts[good.length]? = some (essence bad) := by
        rw [htexts, List.getElem?_append_right (by rw [List.length_map]), List.length_map,
          Nat.sub_self]
        rfl
      rw [hstop, List.length_map, hbadText, feed, hbroken, hfault]
      exact ⟨filterMap_written? hgood, rfl⟩
  refine ⟨hfeed.1, hfeed.2, fun number t => ?_, fun value plain => unescapeQuotes_eq_iff⟩
  unfold faultOf
  split <;> exact ⟨rfl, rfl⟩

end NetPlan.Sheet
