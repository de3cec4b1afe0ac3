import NetPlan.Sheet.Basic

/-!
# Good lines and the first bad one

A line of a sheet is **good** if it is blank but for a comment, or an assignment whose value is
closed if it is quoted (`Sheet.IsGood`). What a good line writes does not hang on its number
(`Sheet.written?`); a bad line gives a fault with the number that it has in the sheet.

So the feed of some lines is made of what they write, each by itself, as far as the first bad one,
and ends with the fault of that line if there is one (`Sheet.feedLines_cases`). If there is none,
the text is read as what its lines write (`Sheet.parse_of_isGood`).
-/

namespace NetPlan.Sheet

/-- The entry that a line writes by itself; `none` if the line is blank or bad. -/
def written? (line : List Char) : Option Entry := do
  let (name, value) ← splitAssignment? (essence line)
  let plain ← unquote? value
  return ⟨String.ofList name, String.ofList plain⟩

/-- The line is blank, but for a comment, or it writes an entry. -/
def IsGood (line : List Char) : Prop :=
  essence line = [] ∨ (written? line).isSome

instance (line : List Char) : Decidable (IsGood line) :=
  inferInstanceAs (Decidable (_ ∨ _))

variable {line : List Char} {number : Nat}

/-! ### One line -/

/-- A good line is read as what it writes by itself, whatever its number. -/
theorem readLine_of_isGood (h : IsGood line) (number : Nat) :
    readLine number line = .ok (written? line) := by
  obtain hblank | hentry := h
  · simp only [readLine, hblank, written?]
    rfl
  · obtain ⟨e, he⟩ := Option.isSome_iff_exists.mp hentry
    obtain ⟨⟨name, value⟩, hsplit, hrest⟩ := Option.bind_eq_some_iff.mp he
    obtain ⟨plain, hplain, heq⟩ := Option.bind_eq_some_iff.mp hrest
    have hne : (essence line).isEmpty = false := by
      cases hessence : essence line with
      | nil => simp [hessence, splitAssignment?] at hsplit
      | cons => rfl
    simp only [readLine, hne, hsplit, hplain, Bool.false_eq_true, if_false, he]
    exact congrArg Except.ok heq

/-- A bad line is turned down with its number. -/
theorem readLine_of_not_isGood (h : ¬IsGood line) (number : Nat) :
    ∃ f, readLine number line = .error f ∧ f.line? = some number ∧ f.category = .sheet := by
  obtain ⟨hne, hnone⟩ := not_or.mp h
  simp only [readLine, List.isEmpty_iff, hne, if_false]
  cases hsplit : splitAssignment? (essence line) with
  | none => exact ⟨_, rfl, rfl, rfl⟩
  | some parts =>
    cases hplain : unquote? parts.2 with
    | none => exact ⟨.unterminatedQuote number, by simp only [hplain], rfl, rfl⟩
    | some plain => simp [written?, hsplit, hplain] at hnone

/-! ### Many lines -/

/-- The feed of lines is what they write if all of them are good. Else it breaks off at the first
bad line, with what those before it write and with the fault of this one. -/
theorem feedLines_cases (number : Nat) (lines : List (List Char)) :
    ((∀ line ∈ lines, IsGood line) ∧
      feedLines number lines = .ofList (lines.filterMap written?)) ∨
    ∃ good bad rest f, lines = good ++ bad :: rest ∧ (∀ line ∈ good, IsGood line) ∧ ¬IsGood bad ∧
      readLine (number + good.length) bad = .error f ∧
      feedLines number lines = { entries := good.filterMap written?, fault := some f } := by
  induction lines generalizing number with
  | nil => exact .inl ⟨List.forall_mem_nil _, rfl⟩
  | cons line lines ih =>
    by_cases hline : IsGood line
    · -- what the line writes stands before the feed of the others
      have hcons : feedLines number (line :: lines) =
          { feedLines (number + 1) lines with
            entries := (written? line).toList ++ (feedLines (number + 1) lines).entries } := by
        rw [feedLines, readLine_of_isGood hline]
        cases written? line <;> rfl
      have hmap (ls : List (List Char)) :
          (line :: ls).filterMap written? = (written? line).toList ++ ls.filterMap written? := by
        cases hentry : written? line <;> simp [hentry]
      obtain ⟨hgood, hfeed⟩ | ⟨good, bad, rest, f, rfl, hgood, hbad, hread, hfeed⟩ :=
        ih (number + 1)
      · refine .inl ⟨List.forall_mem_cons.mpr ⟨hline, hgood⟩, ?_⟩
        rw [hcons, hfeed, hmap]
        rfl
      · refine .inr ⟨line :: good, bad, rest, f, rfl, List.forall_mem_cons.mpr ⟨hline, hgood⟩, hbad,
          ?_, ?_⟩
        · rwa [List.length_cons, ← Nat.add_assoc, Nat.add_right_comm]
        · rw [hcons, hfeed, hmap]
    · obtain ⟨f, hread, -⟩ := readLine_of_not_isGood hline number
      refine .inr ⟨[], line, lines, f, rfl, List.forall_mem_nil _, hline, hread, ?_⟩
      rw [feedLines, hread]
      rfl

/-- If all lines are good, a text is read as what they write. -/
theorem parse_of_isGood {text : String} (h : ∀ line ∈ Text.splitLines text.toList, IsGood line) :
    parse text = .ok ((Text.splitLines text.toList).filterMap written?) := by
  rw [parse, feed]
  obtain ⟨-, hfeed⟩ | ⟨good, bad, rest, f, hlines, -, hbad, -⟩ :=
    feedLines_cases 1 (Text.splitLines text.toList)
  · rw [hfeed]
    rfl
  · exact absurd (h bad (by simp [hlines])) hbad

end NetPlan.Sheet
