import NetPlan.Decimal.Binary64
import NetPlan.Text.Blank
import NetPlan.Text.Digit

/-!
# Reading floating-point numbers

A decimal, with or without a point and an exponent, stands for the floating-point number nearest to
it. The words for infinity and for what is not a number are read in either case.

A text may write its number more freely: with **margins** of white space, with **separators**, which
are underscores between two digits, and with digits of any script. `plainForm?` brings it into the
strict form.
-/

namespace NetPlan.Decimal

/-! ### The strict form of a text -/

/-- The ASCII character that stands for a character: a space for white space, and a digit for a
digit of its value. -/
def asciiForm? (c : Char) : Option Char :=
  if c.toNat < 128 then some c
  else if Text.isBlank c then some ' '
  else (Text.digitValue? c).map Nat.digitChar

/-- Whether a character may stand around a number: the space and the five controls that move the
place of writing. -/
def isMargin (c : Char) : Bool :=
  c = ' ' || ('\t' ≤ c && c ≤ '\r')

/-- The text without the margins at its ends. -/
def trimMargins (cs : List Char) : List Char :=
  ((cs.dropWhile isMargin).reverse.dropWhile isMargin).reverse

/-- The text without its separators; `afterDigit` tells what stands before it. A separator that is
not between two digits has no place. -/
def dropSeparators? (afterDigit : Bool) : List Char → Option (List Char)
  | [] => some []
  | ['_'] => none
  | '_' :: c :: rest =>
    if afterDigit && c.isDigit then (dropSeparators? true rest).map (c :: ·) else none
  | c :: rest => (dropSeparators? c.isDigit rest).map (c :: ·)

/-- The text in ASCII, without margins and separators. -/
def plainForm? (cs : List Char) : Option (List Char) := do
  dropSeparators? false (trimMargins (← cs.mapM asciiForm?))

/-! ### The value of a decimal -/

/-- The value of ASCII digits, behind digits of a given value. -/
def appendDigits (n : Nat) (cs : List Char) : Nat :=
  cs.foldl (fun n c => 10 * n + (c.toNat - '0'.toNat)) n

/-- A power of ten that is larger than all finite numbers. -/
def infinitePower : Int := 309

/-- A power of ten that is smaller than half of the least positive number. -/
def zeroPower : Int := -324

/-- The number nearest to a decimal whose last digit counts `10 ^ place`. A decimal far beyond the
ends of the format is told by the power of ten that it lies below, however large its exponent. -/
def ofDigits (negative : Bool) (digits : List Char) (place : Int) : Binary64 :=
  let significant := digits.dropWhile (· = '0')
  let power := place + significant.length
  if significant.isEmpty || power ≤ zeroPower then .finite negative 0 Binary64.minExponent
  else if infinitePower < power then .infinite negative
  else
    let (p, q) := powerFraction 10 place
    Binary64.nearest negative (appendDigits 0 significant * p) q

/-! ### The parts of a decimal -/

/-- A sign and what stands behind it; a missing sign is positive. -/
def splitSign : List Char → Bool × List Char
  | '-' :: rest => (true, rest)
  | '+' :: rest => (false, rest)
  | cs => (false, cs)

/-- The exponent at the end of a decimal; zero if there is nothing. -/
def exponent? : List Char → Option Int
  | [] => some 0
  | c :: rest =>
    let (negative, digits) := splitSign rest
    if c.toLower = 'e' ∧ digits ≠ [] ∧ digits.all Char.isDigit then
      some (if negative then -(appendDigits 0 digits : Int) else appendDigits 0 digits)
    else none

/-- The number nearest to a decimal without a sign. -/
def unsigned? (negative : Bool) (cs : List Char) : Option Binary64 := do
  let whole := cs.takeWhile Char.isDigit
  let rest := cs.dropWhile Char.isDigit
  let (fraction, rest) := match rest with
    | '.' :: rest => (rest.takeWhile Char.isDigit, rest.dropWhile Char.isDigit)
    | _ => ([], rest)
  if whole.isEmpty && fraction.isEmpty then none
  else
    let e ← exponent? rest
    return ofDigits negative (whole ++ fraction) (e - fraction.length)

/-- The number that a text in strict form stands for. -/
def ofPlainForm? (cs : List Char) : Option Binary64 :=
  let (negative, cs) := splitSign cs
  let word := String.ofList (cs.map Char.toLower)
  if word = "nan" then some .nan
  else if word = "inf" ∨ word = "infinity" then some (.infinite negative)
  else unsigned? negative cs

/-- The number that a text stands for. -/
def Binary64.ofText? (text : String) : Option Binary64 := do
  ofPlainForm? (← plainForm? text.toList)

end NetPlan.Decimal
