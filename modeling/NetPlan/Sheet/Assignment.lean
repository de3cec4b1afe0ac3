import NetPlan.Fault
import NetPlan.Sheet.Comment
import NetPlan.Sheet.Value
import NetPlan.Text.Blank

/-!
# Assignments

A line of a sheet, cut at its comment and trimmed, is empty or an assignment `name = value`. The
name holds neither white space nor an equals sign; the value is what stands behind the first equals
sign, trimmed, and may be quoted.
-/

namespace NetPlan.Sheet

/-- Whether a character may stand in a name. -/
def isNameChar (c : Char) : Bool :=
  c != '=' && !Text.isBlank c

/-- The name and the value, still quoted, of an assignment. -/
def splitAssignment? (line : List Char) : Option (List Char × List Char) :=
  let name := line.takeWhile isNameChar
  if name.isEmpty then none
  else
    match Text.trimStart (line.dropWhile isNameChar) with
    | '=' :: value => some (name, Text.trim value)
    | _ => none

/-- The part of a line that counts. -/
def essence (line : List Char) : List Char :=
  Text.trim (cutComment line)

/-- The entry that a line writes, if any; `number` is the number of the line. -/
def readLine (number : Nat) (line : List Char) : Except Fault (Option Entry) :=
  let text := essence line
  if text.isEmpty then .ok none
  else
    match splitAssignment? text with
    | none => .error (.notAnAssignment number (String.ofList text))
    | some (name, value) =>
      match unquote? value with
      | none => .error (.unterminatedQuote number)
      | some plain => .ok (some ⟨String.ofList name, String.ofList plain⟩)

end NetPlan.Sheet
