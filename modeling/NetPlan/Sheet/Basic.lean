import NetPlan.Feed
import NetPlan.Sheet.Assignment
import NetPlan.Text.Lines

/-!
# Sheets

A sheet is a text of assignments, one a line. Reading it gives a **feed**: the entries of the lines
before the first bad one, and the fault of that line with its number. A file is read as UTF-8 with
all line endings unified; a byte order mark is a character like any other.
-/

namespace NetPlan.Sheet

/-- The feed of a list of lines, the first of which has a given number. -/
def feedLines (number : Nat) : List (List Char) → Feed
  | [] => { entries := [] }
  | line :: lines =>
    match readLine number line with
    | .error fault => { entries := [], fault := some fault }
    | .ok none => feedLines (number + 1) lines
    | .ok (some entry) => (feedLines (number + 1) lines).cons entry

/-- The feed of a text; lines are counted from one. -/
def feed (text : String) : Feed :=
  feedLines 1 (Text.splitLines text.toList)

/-- The entries of a text, if all of its lines are good. -/
def parse (text : String) : Except Fault (List Entry) :=
  (feed text).toExcept

/-- The text that bytes encode, with its line endings unified. -/
def decode (bytes : List UInt8) : Except Fault String :=
  match String.fromUTF8? (ByteArray.mk bytes.toArray) with
  | some text => .ok (String.ofList (Text.unifyNewlines text.toList))
  | none => .error .invalidEncoding

/-- The entries of a file, given what it contains; `none` if there is no such file. -/
def parseFile (contents : Option (List UInt8)) : Except Fault (List Entry) :=
  match contents with
  | none => .error .missingFile
  | some bytes => do parse (← decode bytes)

end NetPlan.Sheet
