import NetPlan.Proofs.Declaration.Refusal
import NetPlan.Proofs.Text.Lines

/-!
# Sheets put together, and files

A sheet is read line by line, and what a line gives does not hang on the lines before it, except for
the number in its fault (`Sheet.feedLines_append`). So a sheet that is put together from two texts,
with a line feed between them, is read as the first one and, if that one has no bad line, as the
second one behind it, where the lines count on from those of the first (`Sheet.feed_joined`,
`Sheet.parse_joined`).

A file is a sheet whose line endings have been unified. As that leaves the lines as they are, a file
is read as the text that its bytes encode (`Sheet.parseFile_encoded`).
-/

namespace NetPlan

open Text

/-! ### Lines moved down -/

namespace Fault

/-- The fault of a line that is moved down by some lines. -/
def moveDown (lines : Nat) : Fault → Fault
  | notAnAssignment line text => notAnAssignment (lines + line) text
  | unterminatedQuote line => unterminatedQuote (lines + line)
  | f => f

theorem message_notAnAssignment (line : Nat) (text : String) :
    (notAnAssignment line text).message =
      s!"line {line}: " ++ s!"expected name = value, got {quoted text}" := by
  have hwords : ": " ++ "expected name = value, got " = ": expected name = value, got " := by decide
  change s!"line {line}" ++ ": expected name = value, got " ++ quoted text = _
  rw [← hwords]
  simp only [String.append_assoc]
  rfl

theorem message_unterminatedQuote (line : Nat) :
    (unterminatedQuote line).message = s!"line {line}: " ++ "unterminated quoted value" := by
  have hwords : ": " ++ "unterminated quoted value" = ": unterminated quoted value" := by decide
  change s!"line {line}" ++ ": unterminated quoted value" = _
  rw [← hwords]
  exact String.append_assoc.symm

/-- Moving a line down changes the number in its fault and nothing else. -/
theorem message_moveDown {f : Fault} (h : f.category = .sheet) (lines : Nat) :
    ∃ (line : Nat) (what : String), f.line? = some line ∧ f.message = s!"line {line}: " ++ what ∧
      (f.moveDown lines).line? = some (lines + line) ∧
      (f.moveDown lines).message = s!"line {lines + line}: " ++ what := by
  cases f with
  | notAnAssignment line text =>
    refine ⟨line, s!"expected name = value, got {quoted text}", rfl, ?_, rfl, ?_⟩
    · exact message_notAnAssignment line text
    · rw [moveDown, message_notAnAssignment]
  | unterminatedQuote line =>
    refine ⟨line, "unterminated quoted value", rfl, ?_, rfl, ?_⟩
    · exact message_unterminatedQuote line
    · rw [moveDown, message_unterminatedQuote]
  | _ => cases h

end Fault

namespace Feed

/-- A feed with another one behind it, which has its turn if the first one does not break off. -/
def append (f g : Feed) : Feed :=
  match f.fault with
  | none => { entries := f.entries ++ g.entries, fault := g.fault }
  | some _ => f

/-- The feed of lines that are moved down by some lines. -/
def moveDown (lines : Nat) (f : Feed) : Feed :=
  { f with fault := f.fault.map (Fault.moveDown lines) }

theorem append_empty (f : Feed) : f.append { entries := [] } = f := by
  cases f with
  | mk entries fault => cases fault <;> simp [append]

theorem cons_append (e : Entry) (f g : Feed) : (f.cons e).append g = (f.append g).cons e := by
  cases f with
  | mk entries fault => cases fault <;> rfl

/-- Two feeds together give the entries of both, or the first fault. -/
theorem toExcept_append (f g : Feed) :
    (f.append g).toExcept = do return (← f.toExcept) ++ (← g.toExcept) := by
  cases f with
  | mk entries fault =>
    cases fault with
    | some fault => rfl
    | none =>
      cases g with
      | mk entries' fault' => cases fault' <;> rfl

/-- Moving lines down changes the fault that comes of them, and no entries. -/
theorem toExcept_moveDown (lines : Nat) (f : Feed) :
    (f.moveDown lines).toExcept = f.toExcept.mapError (Fault.moveDown lines) := by
  cases f with
  | mk entries fault => cases fault <;> rfl

end Feed

namespace Sheet

/-! ### Line by line -/

/-- What a line gives hangs on its number in the fault alone. -/
theorem readLine_moveDown (lines number : Nat) (line : List Char) :
    readLine (lines + number) line = (readLine number line).mapError (Fault.moveDown lines) := by
  simp only [readLine]
  split
  · rfl
  · split
    · rfl
    · split <;> rfl

/-- What lines give hangs on the number of the first one in the fault alone. -/
theorem feedLines_moveDown (lines number : Nat) (ls : List (List Char)) :
    feedLines (lines + number) ls = (feedLines number ls).moveDown lines := by
  induction ls generalizing number with
  | nil => rfl
  | cons line ls ih =>
    rw [feedLines, feedLines, readLine_moveDown, Nat.add_assoc, ih]
    cases readLine number line with
    | error f => rfl
    | ok written => cases written <;> rfl

/-- Lines are read one after the other, and no more of them behind a bad one. -/
theorem feedLines_append (number : Nat) (ls ls' : List (List Char)) :
    feedLines number (ls ++ ls') =
      (feedLines number ls).append (feedLines (number + ls.length) ls') := by
  induction ls generalizing number with
  | nil => rfl
  | cons line ls ih =>
    have hnumber : number + 1 + ls.length = number + (line :: ls).length := by
      rw [List.length_cons, Nat.add_assoc, Nat.add_comm 1]
    rw [List.cons_append, feedLines, feedLines, ih, hnumber]
    cases readLine number line with
    | error f => rfl
    | ok written =>
      cases written with
      | none => rfl
      | some e => exact (Feed.cons_append e _ _).symm

/-! ### Two texts -/

/-- Put together with a line feed between them, two texts are read one after the other. The lines of
the second count on from those of the first and the line feed. -/
theorem feed_joined (t t' : String) :
    feed (t ++ "\n" ++ t') =
      (feed t).append ((feed t').moveDown (splitLines (t ++ "\n").toList).length) := by
  obtain ⟨more, hmore, hsplit⟩ := splitLines_append_lineFeed t.toList
  have hfeed : "\n".toList = ['\n'] := by decide
  have hfirst : splitLines (t ++ "\n").toList = splitLines t.toList ++ more := by
    rw [String.toList_append, hfeed]
    exact (hsplit []).trans (List.append_nil _)
  have hboth : splitLines (t ++ "\n" ++ t').toList =
      splitLines (t ++ "\n").toList ++ splitLines t'.toList := by
    rw [hfirst, String.append_assoc, String.toList_append, String.toList_append, hfeed]
    exact hsplit t'.toList
  -- the line that the line feed may make is empty, so it writes nothing
  have hself : feedLines 1 (splitLines (t ++ "\n").toList) = feed t := by
    have hempty : ∀ number, feedLines number more = { entries := [] } := by
      obtain rfl | rfl := hmore
      · exact fun _ => rfl
      · exact fun _ => rfl
    rw [hfirst, feedLines_append, hempty, Feed.append_empty, feed]
  rw [feed, hboth, feedLines_append, hself, Nat.add_comm, feedLines_moveDown]
  rfl

/-- **A sheet in two parts.** Two texts are put together with a line feed between them. If the first
one has a bad line, its fault is the one of the whole. If both can be read, the whole gives the
entries of both. If only the second has a bad line, the fault of the whole is the fault of this
line, worded as before, but with the number that it has behind the lines of the first text. -/
theorem parse_joined (t t' : String) :
    (∀ f, parse t = .error f → parse (t ++ "\n" ++ t') = .error f) ∧
    (∀ es es', parse t = .ok es → parse t' = .ok es' → parse (t ++ "\n" ++ t') = .ok (es ++ es')) ∧
    ∀ es f', parse t = .ok es → parse t' = .error f' →
      let before := (splitLines (t ++ "\n").toList).length
      ∃ (f : Fault) (line : Nat) (what : String), parse (t ++ "\n" ++ t') = .error f ∧
        f'.line? = some line ∧ f'.message = s!"line {line}: " ++ what ∧
        f.line? = some (before + line) ∧ f.message = s!"line {before + line}: " ++ what := by
  have hwhole : parse (t ++ "\n" ++ t') = do
      return (← parse t) ++
        (← (parse t').mapError (Fault.moveDown (splitLines (t ++ "\n").toList).length)) := by
    rw [parse, feed_joined, Feed.toExcept_append, Feed.toExcept_moveDown]
    rfl
  refine ⟨fun f h => ?_, fun es es' h h' => ?_, fun es f' h h' => ?_⟩
  · rw [hwhole, h]
    rfl
  · rw [hwhole, h, h']
    rfl
  · intro before
    obtain ⟨line, what, hline, hmessage, hline', hmessage'⟩ :=
      Fault.message_moveDown (category_of_parse h') before
    refine ⟨f'.moveDown before, line, what, ?_, hline, hmessage, hline', hmessage'⟩
    rw [hwhole, h, h']
    rfl

/-! ### Files -/

/-- Unifying the endings of lines does not change what is read. -/
theorem parse_unifyNewlines (text : String) :
    parse (String.ofList (unifyNewlines text.toList)) = parse text := by
  rw [parse, feed, String.toList_ofList, splitLines_unifyNewlines]
  rfl

/-- **A file is read as its text.** Bytes that encode a text are read as this text, with its line
endings as they are, and other bytes are turned down. So every text is read as the file that holds
its encoding. -/
theorem parseFile_encoded :
    (∀ bytes : List UInt8, parseFile (some bytes) =
      match String.fromUTF8? (ByteArray.mk bytes.toArray) with
      | some text => parse text
      | none => .error .invalidEncoding) ∧
    ∀ text : String, parseFile (some text.toUTF8.data.toList) = parse text := by
  have hbytes (bytes : List UInt8) : parseFile (some bytes) =
      match String.fromUTF8? (ByteArray.mk bytes.toArray) with
      | some text => parse text
      | none => .error .invalidEncoding := by
    rw [parseFile, decode]
    cases String.fromUTF8? (ByteArray.mk bytes.toArray) with
    | none => rfl
    | some text =>
      dsimp only [bind, Except.bind]
      exact parse_unifyNewlines text
  refine ⟨hbytes, fun text => ?_⟩
  have hdecoded : String.fromUTF8? (ByteArray.mk text.toUTF8.data.toList.toArray) = some text := by
    rw [String.fromUTF8?, Array.toArray_toList]
    exact dif_pos text.isValidUTF8
  rw [hbytes, hdecoded]

end Sheet

end NetPlan
