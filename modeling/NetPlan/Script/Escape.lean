import NetPlan.Text.CharacterName

/-!
# Escapes

A backslash in a literal starts an **escape**. Some escapes are bad: they want more digits than
there are, a number beyond the characters, or a name that no character has. Others are doubtful:
they are kept as they stand, with a remark. A literal is read up to its first bad escape, and of its
doubtful ones the first is remarked on.

Places are counted in a text where each character beyond ASCII is written by ten ASCII ones, and a
backslash before such a character or at the end, which starts no escape, by six.
-/

namespace NetPlan.Script

/-- What is wrong with an escape. -/
inductive Badness where
  /-- After this letter more hexadecimal digits are wanted. -/
  | short (letter : Char)
  /-- No character has this number. -/
  | beyond
  /-- A name is wanted in braces. -/
  | nameless
  /-- No character has this name. -/
  | unknownName
deriving DecidableEq, Repr

/-- A bad escape, with the places of its first and its last character. -/
structure BadEscape where
  badness : Badness
  first : Nat
  last : Nat
deriving DecidableEq, Repr

/-- What an escape is found to be. It spans some characters, the backslash not counted. -/
inductive Escape where
  | good (span : Nat)
  | doubtful (span : Nat)
  | bad (span : Nat) (badness : Badness)
deriving DecidableEq, Repr

/-- The greatest number of a character. -/
def maxCharacter : Nat := 1114111

/-- The greatest number that is written by octal digits without a doubt. -/
def maxOctal : Nat := 255

/-- Whether a character is a hexadecimal digit. -/
def isHexDigit (c : Char) : Bool :=
  c.isDigit || ('a' ≤ c && c ≤ 'f') || ('A' ≤ c && c ≤ 'F')

/-- The value of a hexadecimal digit. -/
def hexDigitValue (c : Char) : Nat :=
  if c.isDigit then c.toNat - '0'.toNat
  else if 'a' ≤ c then c.toNat - 'a'.toNat + 10
  else c.toNat - 'A'.toNat + 10

/-- Whether a character is an octal digit. -/
def isOctalDigit (c : Char) : Bool :=
  '0' ≤ c && c ≤ '7'

/-- The number that digits write to a base. -/
def digitsValue (base : Nat) (digits : List Char) : Nat :=
  digits.foldl (fun n c => base * n + hexDigitValue c) 0

namespace Escape

/-- An escape of a letter and as many hexadecimal digits as it wants. -/
def ofDigits (letter : Char) (wanted : Nat) (rest : List Char) : Escape :=
  let digits := (rest.take wanted).takeWhile isHexDigit
  if digits.length < wanted then bad (1 + digits.length) (.short letter)
  else if maxCharacter < digitsValue 16 digits then bad (1 + wanted) .beyond
  else good (1 + wanted)

/-- An escape of up to three octal digits. -/
def ofOctal (rest : List Char) : Escape :=
  let digits := (rest.take 3).takeWhile isOctalDigit
  if maxOctal < digitsValue 8 digits then doubtful digits.length else good digits.length

/-- An escape by the name of a character. -/
def ofName : List Char → Escape
  | '\x7b' :: rest =>
    let name := rest.takeWhile (· ≠ '\x7d')
    if name.length = rest.length then bad (2 + name.length) .nameless
    else if name.isEmpty then bad 2 .nameless
    else if Text.CharacterName.isName name then good (3 + name.length)
    else bad (3 + name.length) .unknownName
  | _ => bad 1 .nameless

/-- The characters that stand alone behind a backslash. -/
def single : List Char :=
  ['\n', '\\', '\'', '"', 'a', 'b', 'f', 'n', 'r', 't', 'v']

/-- The escape that a backslash before some characters starts. -/
def ofRest : List Char → Escape
  | [] => good 0
  | c :: rest =>
    if 128 ≤ c.toNat then good 0
    else if c = 'x' then ofDigits c 2 rest
    else if c = 'u' then ofDigits c 4 rest
    else if c = 'U' then ofDigits c 8 rest
    else if c = 'N' then ofName rest
    else if isOctalDigit c then ofOctal (c :: rest)
    else if single.contains c then good 1
    else doubtful 1

end Escape

/-- How many characters write a character. -/
def writtenWidth (c : Char) : Nat :=
  if c.toNat < 128 then 1 else 10

/-- How many characters write a backslash before some characters. -/
def backslashWidth : List Char → Nat
  | [] => 6
  | c :: _ => if c.toNat < 128 then 1 else 6

/-- How many characters write a text. -/
def writtenLength : List Char → Nat
  | [] => 0
  | c :: rest => (if c = '\\' then backslashWidth rest else writtenWidth c) + writtenLength rest

/-- The first bad escape in a text; `place` is where the text starts, and `skip` counts the
characters that belong to an escape before it. -/
def badEscape? (place skip : Nat) : List Char → Option BadEscape
  | [] => none
  | c :: rest =>
    match skip with
    | skip + 1 => badEscape? (place + writtenWidth c) skip rest
    | 0 =>
      if c = '\\' then
        match Escape.ofRest rest with
        | .good span | .doubtful span => badEscape? (place + backslashWidth rest) span rest
        | .bad span badness => some ⟨badness, place, place + writtenLength (rest.take span)⟩
      else badEscape? (place + writtenWidth c) 0 rest

/-- The first doubtful escape in a text, with its backslash; `skip` counts the characters that
belong to an escape before it. -/
def doubtfulEscape? (skip : Nat) : List Char → Option (List Char)
  | [] => none
  | c :: rest =>
    match skip with
    | skip + 1 => doubtfulEscape? skip rest
    | 0 =>
      if c = '\\' then
        match Escape.ofRest rest with
        | .good span | .bad span _ => doubtfulEscape? span rest
        | .doubtful span => some (c :: rest.take span)
      else doubtfulEscape? 0 rest

/-! ### Values -/

/-- The characters that the letter of an escape of its own stands for. -/
def letterValues : List (Char × Char) :=
  [('a', '\x07'), ('b', '\x08'), ('f', '\x0c'), ('n', '\n'), ('r', '\r'), ('t', '\t'), ('v', '\x0b')]

/-- A character that stands for one that is called by its name. -/
def namedCharacter : Char := '\uFFFD'

/-- The text that a good escape stands for, given the characters behind its backslash. -/
def Escape.value : List Char → List Char
  | [] => ['\\']
  | c :: rest =>
    if c = '\n' then []
    else if c = 'x' || c = 'u' || c = 'U' then [Char.ofNat (digitsValue 16 rest)]
    else if c = 'N' then [namedCharacter]
    else if isOctalDigit c then [Char.ofNat (digitsValue 8 (c :: rest))]
    else [(letterValues.lookup c).getD c]

/-- The text that a literal without bad escapes stands for; `skip` counts the characters that belong
to an escape before it. A doubtful escape stands for itself. -/
def unescape (skip : Nat) : List Char → List Char
  | [] => []
  | c :: rest =>
    match skip with
    | skip + 1 => unescape skip rest
    | 0 =>
      if c = '\\' then
        match Escape.ofRest rest with
        | .good span | .bad span _ => Escape.value (rest.take span) ++ unescape span rest
        | .doubtful span => c :: rest.take span ++ unescape span rest
      else c :: unescape 0 rest

end NetPlan.Script
