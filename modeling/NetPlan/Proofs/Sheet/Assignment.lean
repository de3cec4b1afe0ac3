import NetPlan.Proofs.Sheet.Comment
import NetPlan.Proofs.Text.Blank
import NetPlan.Proofs.Text.Lines
import NetPlan.Sheet.Basic

/-!
# Lines that give a name a value

The texts that are split are a word, white space, an equals sign and anything, where the word has no
equals signs (`Sheet.splitAssignment?_eq_some_iff`).

The line `name = value` passes three readers before its value is unquoted: the cut of comments,
which finds the value as it would stand alone if the name has neither comment signs nor quotes
(`Sheet.cutComment_assignmentLine`); trimming; and the split behind the name, which takes what is
left of the white space around the value (`Sheet.splitAssignment?_trim`). So the line gives its name
what the value stands for without its comment (`Sheet.readLine_assignmentLine`), and without a name
it is no assignment (`Sheet.readLine_nameless`).
-/

namespace NetPlan.Sheet

open Text

/-- The line that gives a name a value. -/
def assignmentLine (name value : List Char) : List Char :=
  name ++ ' ' :: '=' :: ' ' :: value

/-- The text has none of the characters that would end a name or hide what stands behind it. -/
def IsBare (name : List Char) : Prop :=
  ∀ c ∈ name, isBlank c = false ∧ c ≠ '=' ∧ c ≠ '#' ∧ c ≠ '"'

variable {text name value : List Char}

/-! ### Splitting and closing -/

theorem isNameChar_iff {c : Char} : isNameChar c = true ↔ c ≠ '=' ∧ isBlank c = false := by
  simp [isNameChar]

/-- A text is split if it is a word, white space, an equals sign and anything, where the word has no
equals signs. -/
theorem splitAssignment?_eq_some_iff :
    splitAssignment? text = some (name, value) ↔
      ∃ blanks after, text = name ++ blanks ++ '=' :: after ∧ name ≠ [] ∧
        (∀ c ∈ name, isNameChar c = true) ∧ (∀ c ∈ blanks, isBlank c = true) ∧
        value = trim after := by
  have hequals : isBlank '=' = false := by decide
  constructor
  · intro h
    simp only [splitAssignment?] at h
    split at h
    · cases h
    · rename_i hne
      split at h
      · rename_i after hafter
        obtain ⟨rfl, rfl⟩ := Prod.mk.inj (Option.some.inj h)
        refine ⟨(text.dropWhile isNameChar).takeWhile isBlank, after, ?_, by simpa using hne,
          fun c hc => List.mem_takeWhile_imp hc, fun c hc => List.mem_takeWhile_imp hc, rfl⟩
        rw [List.append_assoc, ← hafter, trimStart, List.takeWhile_append_dropWhile,
          List.takeWhile_append_dropWhile]
      · cases h
  · rintro ⟨blanks, after, rfl, hne, hname, hblanks, rfl⟩
    have hstop : ∀ c ∈ (blanks ++ '=' :: after).head?, isNameChar c = false := by
      intro c hc
      cases blanks with
      | nil =>
        obtain rfl := Option.some.inj hc
        decide
      | cons b blanks =>
        obtain rfl := Option.some.inj hc
        simp [isNameChar, hblanks b List.mem_cons_self]
    obtain ⟨htake, hdrop⟩ := List.span_append (blanks ++ '=' :: after) hname hstop
    have hstart : trimStart (blanks ++ '=' :: after) = '=' :: after := by
      rw [trimStart_append_cons hequals, trimStart, List.dropWhile_eq_nil_iff.mpr hblanks]
      rfl
    simp only [splitAssignment?, List.append_assoc, htake, hdrop, hstart, List.isEmpty_iff, hne,
      if_false]

theorem isClosed_iff :
    isClosed value = true ↔
      2 ≤ value.length ∧ value.getLast? = some '"' ∧ ¬escapedQuote <:+ value := by
  simp only [isClosed, Bool.and_eq_true, decide_eq_true_eq, beq_iff_eq, Bool.not_eq_true',
    ← Bool.not_eq_true, List.isSuffixOf_iff_suffix, and_assoc]

/-! ### The line -/

theorem IsBare.isNameChar (h : IsBare name) : ∀ c ∈ name, isNameChar c = true := fun c hc => by
  obtain ⟨hblank, hequals, -⟩ := h c hc
  exact isNameChar_iff.mpr ⟨hequals, hblank⟩

/-- A name without comment signs and quotes leaves the value to itself. -/
theorem cutComment_assignmentLine (hname : IsBare name) (value : List Char) :
    cutComment (assignmentLine name value) = assignmentLine name (cutComment value) := by
  rw [cutComment, assignmentLine, cutFrom_plain_append fun c hc => (hname c hc).2.2]
  rfl

/-- A line that is trimmed is split behind its name, and the value is trimmed on both sides. -/
theorem splitAssignment?_trim (hname : IsBare name) (hne : name ≠ []) (value : List Char) :
    splitAssignment? (trim (assignmentLine name value)) = some (name, trim value) := by
  obtain ⟨c, rest, rfl⟩ := List.exists_cons_of_ne_nil hne
  have hequals : isBlank '=' = false := by decide
  have htrim : trim (assignmentLine (c :: rest) value) =
      c :: rest ++ ' ' :: '=' :: trimEnd (' ' :: value) := by
    have hline :
        assignmentLine (c :: rest) value = c :: (rest ++ [' ']) ++ '=' :: ' ' :: value := by
      simp [assignmentLine]
    rw [hline, trim_append_cons hequals, trimStart_cons (hname c List.mem_cons_self).1]
    simp
  refine splitAssignment?_eq_some_iff.mpr ⟨[' '], trimEnd (' ' :: value), ?_, hne, hname.isNameChar,
    List.forall_mem_singleton.mpr (by decide), ?_⟩
  · rw [htrim, List.append_assoc, List.singleton_append]
  · rw [trim_trimEnd, trim_cons (by decide)]

/-- A line without a name is no assignment. -/
theorem readLine_nameless (value : List Char) (number : Nat) :
    readLine number (assignmentLine [] value) =
      .error (.notAnAssignment number (String.ofList (essence (assignmentLine [] value)))) := by
  have hequals : isBlank '=' = false := by decide
  have htrim (value : List Char) : trim (assignmentLine [] value) = '=' :: trimEnd (' ' :: value) :=
    trim_append_cons hequals [' '] (' ' :: value)
  rw [readLine, essence, cutComment_assignmentLine (List.forall_mem_nil _), htrim]
  rfl

/-- The line gives its name what its value stands for, without its comment and the white space
around it. -/
theorem readLine_assignmentLine (hname : IsBare name) (value : List Char) (number : Nat) :
    readLine number (assignmentLine name value) =
      if name = [] then
        .error (.notAnAssignment number (String.ofList (essence (assignmentLine name value))))
      else
        match unquote? (trim (cutComment value)) with
        | none => .error (.unterminatedQuote number)
        | some plain => .ok (some ⟨String.ofList name, String.ofList plain⟩) := by
  split
  · rename_i hempty
    subst hempty
    exact readLine_nameless value number
  · rename_i hne
    have hsplit := splitAssignment?_trim hname hne (cutComment value)
    have htext : (trim (assignmentLine name (cutComment value))).isEmpty = false := by
      cases hempty : trim (assignmentLine name (cutComment value)) with
      | nil => simp [hempty, splitAssignment?] at hsplit
      | cons => rfl
    rw [readLine, essence, cutComment_assignmentLine hname, htext, hsplit]
    rfl

/-- The line stays one line, because its name has no white space. -/
theorem isLineEnd_assignmentLine (hname : IsBare name) (hvalue : ∀ c ∈ value, isLineEnd c = false) :
    ∀ c ∈ assignmentLine name value, isLineEnd c = false := by
  intro c hc
  simp only [assignmentLine, List.mem_append, List.mem_cons] at hc
  obtain hc | rfl | rfl | rfl | hc := hc
  · rw [← Bool.not_eq_true]
    intro hend
    exact Bool.noConfusion ((isBlank_of_isLineEnd hend).symm.trans (hname c hc).1)
  · decide
  · decide
  · decide
  · exact hvalue c hc

/-- As a text of its own, the line is read as it is read in a sheet. -/
theorem parse_assignmentLine (hname : IsBare name) (hvalue : ∀ c ∈ value, isLineEnd c = false) :
    parse (String.ofList (assignmentLine name value)) =
      (readLine 1 (assignmentLine name value)).map Option.toList := by
  have hne : assignmentLine name value ≠ [] :=
    List.append_ne_nil_of_right_ne_nil name (List.cons_ne_nil ' ' _)
  rw [parse, feed, String.toList_ofList,
    splitLines_of_line hne (isLineEnd_assignmentLine hname hvalue), feedLines]
  cases readLine 1 (assignmentLine name value) with
  | error f => rfl
  | ok written => cases written <;> rfl

end NetPlan.Sheet
