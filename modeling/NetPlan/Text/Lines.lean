import NetPlan.Text.CodeRange

/-!
# Lines

`splitLines` cuts a text at its line terminators. Ten characters end a line, a carriage return
followed by a line feed is one terminator, and a terminator at the very end opens no further
line. `unifyNewlines` is the weaker treatment that a text file gets when it is read: only the
carriage return is touched.
-/

namespace NetPlan.Text

/-- The code points that end a line. -/
def lineEndRanges : List CodeRange :=
  [⟨0x0A, 0x0D⟩, ⟨0x1C, 0x1E⟩, ⟨0x85, 0x85⟩, ⟨0x2028, 0x2029⟩]

/-- Whether a character ends a line. -/
def isLineEnd (c : Char) : Bool :=
  inRanges lineEndRanges c

/-- The lines of a text, without their terminators. -/
def splitLines : List Char → List (List Char)
  | [] => []
  | '\r' :: '\n' :: rest => [] :: splitLines rest
  | c :: rest =>
    if isLineEnd c then
      [] :: splitLines rest
    else
      match splitLines rest with
      | [] => [[c]]
      | line :: lines => (c :: line) :: lines

/-- A text in front of which a character is put, where a carriage return in front of a line feed is
left out and any other becomes a line feed; with it, whether the character is a line feed itself. -/
def pushUnified (c : Char) (text : Bool × List Char) : Bool × List Char :=
  if c = '\r' then (false, if text.1 then text.2 else '\n' :: text.2)
  else (c = '\n', c :: text.2)

/-- The text with each `\r\n` and each lone `\r` replaced by `\n`. -/
def unifyNewlines (cs : List Char) : List Char :=
  (cs.foldr pushUnified (false, [])).2

end NetPlan.Text
