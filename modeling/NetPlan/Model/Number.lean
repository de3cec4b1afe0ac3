import NetPlan.Decimal.Notation
import NetPlan.Decimal.Reading
import NetPlan.Fault

/-!
# Numbers in models

The attributes of an operator are whole numbers or floating-point numbers, and are kept as they were
given. A **size** is one number for all directions or a list with one for each. Layer settings
describe square kernels, strides and paddings, so only the first number of a size counts, cut off
toward zero.
-/

namespace NetPlan

/-- A whole number or a floating-point number. -/
inductive Number where
  | whole (n : Int)
  | float (x : Decimal.Binary64)
deriving DecidableEq, Repr

namespace Number

/-- The text of a number. -/
def text : Number → String
  | whole n => toString n
  | float x => x.text

/-- The floating-point number that a text writes. -/
def ofText (text : String) : Except Fault Number :=
  match Decimal.Binary64.ofText? text with
  | some x => .ok (float x)
  | none => .error (.unreadableNumber text)

/-- A number as a fraction, unless it is infinite or not a number. -/
def fraction? : Number → Option (Int × Nat)
  | whole n => some (n, 1)
  | float x => x.fraction?

/-- How a number compares with a whole one; what is not a number does not. -/
def compare? (n : Int) : Number → Option Ordering
  | float (.infinite negative) => some (if negative then .lt else .gt)
  | x => x.fraction?.map fun (m, d) => compare m (n * d)

/-- The floating-point number nearest to a number. -/
def toBinary64 : Number → Except Fault Decimal.Binary64
  | float x => .ok x
  | whole n =>
    match Decimal.Binary64.nearest (n < 0) n.natAbs 1 with
    | .infinite _ => .error .oversizedNumber
    | x => .ok x

/-- Whether a number is a whole number of times another that is not zero. If one of them is a
floating-point number, it is asked of the floating-point numbers nearest to them. -/
def isMultipleOf : Number → Number → Except Fault Bool
  | whole m, whole n => .ok (m % n = 0)
  | x, y => do
    let x ← x.toBinary64
    let y ← y.toBinary64
    match x.fraction?, y.fraction? with
    | some (m, d), some (n, e) => return (m * e) % (n * d) = 0
    | some (m, _), none => return m = 0 && y != .nan
    | none, _ => return false

/-- A number cut off toward zero. -/
def truncate : Number → Except Fault Int
  | whole n => .ok n
  | float .nan => .error .undefinedSize
  | float (.infinite _) => .error .infiniteSize
  | float (.finite negative significand exponent) =>
    let n : Int := Decimal.Binary64.wholePart significand exponent
    .ok (if negative then -n else n)

end Number

/-- One number for all directions, or one for each. -/
inductive Size where
  | uniform (n : Number)
  | each (ns : List Number)
deriving DecidableEq, Repr

/-- A padding: a size, or the name of a rule. -/
inductive Padding where
  | size (s : Size)
  | rule (name : String)
deriving DecidableEq, Repr

/-- The numbers of a size, one for each of some directions unless it lists its own. -/
def Size.sides (directions : Nat) : Size → List Number
  | uniform n => List.replicate directions n
  | each ns => ns

/-- The number that stands for a size in a setting; the empty list has none. -/
def Size.side : Size → Except Fault Int
  | uniform n => n.truncate
  | each (n :: _) => n.truncate
  | each [] => .error .emptySize

/-- The number that stands for a padding in a setting; a rule has none. -/
def Padding.side : Padding → Except Fault Int
  | size s => s.side
  | rule name => .error (.textualSize name)

end NetPlan
