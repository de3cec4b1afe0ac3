import NetPlan.Text.CharacterName.A
import NetPlan.Text.CharacterName.B
import NetPlan.Text.CharacterName.C
import NetPlan.Text.CharacterName.D
import NetPlan.Text.CharacterName.G
import NetPlan.Text.CharacterName.K
import NetPlan.Text.CharacterName.L
import NetPlan.Text.CharacterName.M
import NetPlan.Text.CharacterName.P
import NetPlan.Text.CharacterName.S
import NetPlan.Text.CharacterName.T
import NetPlan.Text.CharacterName.V
import NetPlan.Text.CodeRange

/-!
# Names of characters

The names of characters and their aliases, as of version 14 of the Unicode character database. Most
of them are in tables, one for each first letter, in alphabetical order. Each name stands there as
how many characters it shares with the one before, a number to the base 26 in small letters, and
what comes behind that.

Syllables of Hangul are named by the letters in them, and unified ideographs by their numbers. Those
names have to be in capitals; for the others case does not matter.
-/

namespace NetPlan.Text.CharacterName

/-! ### Names in tables -/

/-- The table for a first letter. -/
def rows : Char → List String
  | 'A' => rowsA | 'B' => rowsB | 'C' => rowsC | 'D' => rowsD | 'E' => rowsE | 'F' => rowsF
  | 'G' => rowsG | 'H' => rowsH | 'I' => rowsI | 'J' => rowsJ | 'K' => rowsK | 'L' => rowsL
  | 'M' => rowsM | 'N' => rowsN | 'O' => rowsO | 'P' => rowsP | 'Q' => rowsQ | 'R' => rowsR
  | 'S' => rowsS | 'T' => rowsT | 'U' => rowsU | 'V' => rowsV | 'W' => rowsW | 'X' => rowsX
  | 'Y' => rowsY | 'Z' => rowsZ
  | _ => []

/-- How far a table has been read. -/
structure Progress where
  /-- The name that is read, or the one before, last character first. -/
  name : List Char := []
  /-- How many characters the next name shares with the one before, while that is read. -/
  shared? : Option Nat := none
  found : Bool := false

/-- Reads one character of a table while a name is looked for, which is given last character
first. -/
def Progress.step (wanted : List Char) (p : Progress) (c : Char) : Progress :=
  if c.isLower then
    let digit := c.toNat - 'a'.toNat
    match p.shared? with
    | some n => { p with shared? := some (26 * n + digit) }
    | none => { p with shared? := some digit, found := p.found || p.name = wanted }
  else
    match p.shared? with
    | some n => { p with name := c :: p.name.drop (p.name.length - n), shared? := none }
    | none => { p with name := c :: p.name }

/-- Whether a name in capitals is in a table. -/
def isListed (name : List Char) : Bool :=
  let wanted := name.reverse
  let read := (rows (name.headD ' ')).foldl
    (fun p row => row.toList.foldl (Progress.step wanted) p) {}
  read.found || (!wanted.isEmpty && read.name = wanted)

/-! ### Syllables -/

/-- What the names of syllables of Hangul start with. -/
def syllableMark : List Char := "HANGUL SYLLABLE ".toList

/-- The letters that a syllable can start with; one of them is silent. -/
def leads : List String :=
  ["G", "GG", "N", "D", "DD", "R", "M", "B", "BB", "S", "SS", "", "J", "JJ", "C", "K", "T", "P", "H"]

/-- The vowels. -/
def vowels : List String :=
  ["A", "AE", "YA", "YAE", "EO", "E", "YEO", "YE", "O", "WA", "WAE", "OE", "YO", "U", "WEO", "WE",
    "WI", "YU", "EU", "YI", "I"]

/-- The letters that a syllable can end with, if it ends with one. -/
def tails : List String :=
  ["", "G", "GG", "GS", "N", "NJ", "NH", "D", "L", "LG", "LM", "LB", "LS", "LT", "LP", "LH", "M",
    "B", "BS", "S", "SS", "NG", "J", "C", "K", "T", "P", "H"]

/-- What stands behind the longest of some letters that a text starts with, if it starts with
one. -/
def behindLetter? (letters : List String) (text : List Char) : Option (List Char) :=
  let fitting := letters.filter (·.toList.isPrefixOf text)
  if fitting.isEmpty then none
  else some (text.drop ((fitting.map String.length).foldl max 0))

/-- Whether a text names the letters of a syllable. -/
def isSyllable (text : List Char) : Bool :=
  (((behindLetter? leads text).bind (behindLetter? vowels)).bind (behindLetter? tails)).any
    List.isEmpty

/-! ### Ideographs -/

/-- What the names of unified ideographs start with. -/
def ideographMark : List Char := "CJK UNIFIED IDEOGRAPH-".toList

/-- The unified ideographs. -/
def ideographRanges : List CodeRange :=
  [⟨0x3400, 0x4DBF⟩, ⟨0x4E00, 0x9FFF⟩, ⟨0x20000, 0x2A6DF⟩, ⟨0x2A700, 0x2B738⟩, ⟨0x2B740, 0x2B81D⟩,
    ⟨0x2B820, 0x2CEA1⟩, ⟨0x2CEB0, 0x2EBE0⟩, ⟨0x30000, 0x3134A⟩]

/-- The value of a digit to the base 16 whose letters are capitals. -/
def digitValue? (c : Char) : Option Nat :=
  if c.isDigit then some (c.toNat - '0'.toNat)
  else if 'A' ≤ c && c ≤ 'F' then some (c.toNat - 'A'.toNat + 10)
  else none

/-- Whether a text is the number of a unified ideograph, in four or five digits. -/
def isIdeograph (text : List Char) : Bool :=
  (text.length = 4 || text.length = 5) &&
    ((text.mapM digitValue?).map (·.foldl (fun n d => 16 * n + d) 0)).any fun n =>
      ideographRanges.any (·.contains n)

/-! ### All names -/

/-- Whether a text is the name of a character. -/
def isName (text : List Char) : Bool :=
  if syllableMark.isPrefixOf text then isSyllable (text.drop syllableMark.length)
  else if ideographMark.isPrefixOf text then isIdeograph (text.drop ideographMark.length)
  else isListed (text.map Char.toUpper)

end NetPlan.Text.CharacterName
