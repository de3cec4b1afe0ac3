/-!
# Binary numbers of 53 bits

The numbers of the binary floating-point format with 53 significant bits, as exact values: a sign, a
whole significand and a power of two. `nearest` rounds a fraction to the format, and `truncate`
cuts a number off toward zero.
-/

namespace NetPlan.Decimal

/-- A floating-point number. A finite one is its significand times two to its exponent; the
significand is below `2 ^ 53`, the exponent at least `-1074`, and one of the two cannot be made
smaller. -/
inductive Binary64 where
  | nan
  | infinite (negative : Bool)
  | finite (negative : Bool) (significand : Nat) (exponent : Int)
deriving DecidableEq, Repr

/-- A power as the numerator and the denominator of a fraction. -/
def powerFraction (base : Nat) (exponent : Int) : Nat × Nat :=
  (Nat.pow base exponent.toNat, Nat.pow base (-exponent).toNat)

/-- A quotient rounded to the nearest whole number, and to the even one of two that are equally
near. -/
def roundQuotient (num den : Nat) : Nat :=
  let q := num / den
  let twice := 2 * (num % den)
  if twice < den ∨ (twice = den ∧ q % 2 = 0) then q else q + 1

namespace Binary64

/-- The smallest significand of 53 bits. -/
def leastFull : Nat := 4503599627370496

/-- The smallest significand that is too large. -/
def tooLarge : Nat := 9007199254740992

/-- The smallest exponent. -/
def minExponent : Int := -1074

/-- The largest exponent. -/
def maxExponent : Int := 971

/-- The exponent at which a positive fraction has a significand of 53 bits, or the smallest one if
that is larger. -/
def exponentOf (num den : Nat) : Int :=
  let e : Int := (num.log2 : Int) - den.log2 - 52
  let (p, q) := powerFraction 2 e
  let e := if num * q < leastFull * (den * p) then e - 1 else e
  max e minExponent

/-- The number nearest to a fraction, with a given sign. -/
def nearest (negative : Bool) (num den : Nat) : Binary64 :=
  if num = 0 then finite negative 0 minExponent
  else
    let e := exponentOf num den
    let (p, q) := powerFraction 2 e
    let m := roundQuotient (num * q) (den * p)
    let (m, e) := if m = tooLarge then (leastFull, e + 1) else (m, e)
    if maxExponent < e then infinite negative else finite negative m e

/-- A finite number as a fraction. -/
def fraction? : Binary64 → Option (Int × Nat)
  | finite negative significand exponent =>
    let (p, q) := powerFraction 2 exponent
    let n : Int := (significand * p : Nat)
    some (if negative then -n else n, q)
  | nan | infinite _ => none

/-- The whole part of a finite number. -/
def wholePart (significand : Nat) (exponent : Int) : Nat :=
  let (p, q) := powerFraction 2 exponent
  significand * p / q

end Binary64

end NetPlan.Decimal
