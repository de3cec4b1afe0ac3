import NetPlan.Decimal.Shortest

/-!
# The text of a number

A floating-point number is written by its shortest decimal. It is written out in full if its first
digit stands for `10 ^ -4` or more and less than `10 ^ 16`, with a zero behind the point if it is
whole; otherwise with an exponent of two digits or more.
-/

namespace NetPlan.Decimal

/-- The smallest power of ten that is written out in full. -/
def leastPlain : Int := -4

/-- The smallest power of ten that is written with an exponent. -/
def leastScientific : Int := 16

/-- The digits of a number. -/
def digitsOf (n : Nat) : List Char :=
  Nat.toDigits 10 n

/-- An exponent with its sign and at least two digits. -/
def exponentText (e : Int) : List Char :=
  let digits := digitsOf e.natAbs
  (if e < 0 then '-' else '+') :: (List.replicate (2 - digits.length) '0' ++ digits)

/-- A decimal with an exponent: the point stands behind the first digit. -/
def scientific (digits : List Char) (e : Int) : List Char :=
  let tail := digits.drop 1
  digits.take 1 ++ (if tail.isEmpty then [] else '.' :: tail) ++ 'e' :: exponentText e

/-- A decimal written out in full, where the first digit stands for `10 ^ e`. -/
def plain (digits : List Char) (e : Int) : List Char :=
  if e < 0 then
    '0' :: '.' :: (List.replicate (-e - 1).toNat '0' ++ digits)
  else
    let width := e.toNat + 1
    let whole := digits.take width ++ List.replicate (width - digits.length) '0'
    let fraction := digits.drop width
    whole ++ '.' :: (if fraction.isEmpty then ['0'] else fraction)

/-- The text of a positive number. -/
def magnitude (significand : Nat) (exponent : Int) : List Char :=
  let (n, place) := shortest significand exponent
  let digits := digitsOf n
  let e := place + digits.length - 1
  if leastPlain ≤ e ∧ e < leastScientific then plain digits e else scientific digits e

/-- The text of a floating-point number. -/
def Binary64.text : Binary64 → String
  | nan => "nan"
  | infinite negative => if negative then "-inf" else "inf"
  | finite negative significand exponent =>
    let digits := if significand = 0 then ['0', '.', '0'] else magnitude significand exponent
    String.ofList (if negative then '-' :: digits else digits)

end NetPlan.Decimal
