import NetPlan.Script.Tree

/-!
# Arithmetic

Constants can be computed with before a script is run, as long as that is sure to come to a value
and the value stays small. Of numbers with a fraction it is known whether they are zero, and no
more, so a result of such numbers is taken for zero only if it is so whatever their values are.
-/

namespace NetPlan.Script.Constant

/-- The most bits of a whole number that a product, a power or a shift may come to. -/
def maxBits : Nat := 128

/-- The most items of a group that a product may come to. -/
def maxItems : Nat := 256

/-- The most characters that a product may come to. -/
def maxCharacters : Nat := 4096

/-- Number of bits of a whole number without its sign. -/
def bits (n : Int) : Nat :=
  if n = 0 then 0 else n.natAbs.log2 + 1

/-- The numbers with a fraction reach up to a power of two; this is its exponent. -/
def maxExponent : Nat := 1024

/-- A number of one of three sorts. -/
inductive Number where
  | whole (n : Int)
  | real (isZero : Bool)
  | imaginary (isZero : Bool)

/-- A constant as a number, if it is one. -/
def number? : Constant → Option Number
  | flag b => some (.whole (if b then 1 else 0))
  | whole n => some (.whole n)
  | real z => some (.real z)
  | imaginary z => some (.imaginary z)
  | nothing | dots | text _ | bytes _ | group _ => none

/-- Whether a number is zero. -/
def Number.isZero : Number → Bool
  | whole n => n = 0
  | real z | imaginary z => z

/-- Whether a number can be made one with a fraction. -/
def Number.fits : Number → Bool
  | whole n => bits n ≤ maxExponent
  | real _ | imaginary _ => true

/-- The result of two numbers of which one has a fraction. -/
def mixed (a b : Number) (isZero : Bool) : Option Constant :=
  if !a.fits || !b.fits then none
  else
    match a, b with
    | .imaginary _, _ | _, .imaginary _ => some (.imaginary isZero)
    | _, _ => some (.real isZero)

/-- The sum or the difference of two numbers. -/
def sum (operate : Int → Int → Int) : Number → Number → Option Constant
  | .whole a, .whole b => some (.whole (operate a b))
  | a, b => mixed a b (a.isZero && b.isZero)

/-- The product of two numbers. -/
def product : Number → Number → Option Constant
  | .whole a, .whole b =>
    if a ≠ 0 && b ≠ 0 && maxBits < bits a + bits b then none else some (.whole (a * b))
  | a, b => mixed a b (a.isZero || b.isZero)

/-- The quotient of two numbers. -/
def quotient (a b : Number) : Option Constant :=
  if b.isZero then none
  else
    match a, b with
    | .whole m, .whole n =>
      if bits (m.natAbs / n.natAbs) ≤ maxExponent then some (.real (m = 0)) else none
    | _, _ => mixed a b a.isZero

/-- The quotient down to a whole number, or what is left behind it. -/
def division (operate : Int → Int → Int) (a b : Number) : Option Constant :=
  if b.isZero then none
  else
    match a, b with
    | .whole m, .whole n => some (.whole (operate m n))
    | .imaginary _, _ | _, .imaginary _ => none
    | _, _ => mixed a b a.isZero

/-- The power of two numbers. -/
def power (a b : Number) : Option Constant :=
  match a, b with
  | .whole m, .whole n =>
    if n < 0 then
      if m = 0 then none else mixed a (.real false) false
    else if m ≠ 0 && n ≠ 0 && maxBits / n.toNat < bits m then none
    else if m = 0 then some (.whole (if n = 0 then 1 else 0))
    else some (.whole (Int.pow m n.toNat))
  | _, _ =>
    if a.isZero then
      match b with
      | .whole n => if n < 0 then none else mixed a b (n ≠ 0)
      | .real z => mixed a b !z
      | .imaginary z => if z then mixed a b false else none
    else mixed a b false

/-- A whole number shifted by some bits. -/
def shiftLeft (m n : Int) : Option Constant :=
  if n < 0 then none
  else if m = 0 then some (.whole 0)
  else if maxBits < n || maxBits < bits m + n.toNat then
    if n = 0 then some (.whole m) else none
  else some (.whole (m * Int.pow 2 n.toNat))

/-- A whole number shifted back by some bits. -/
def shiftRight (m n : Int) : Option Constant :=
  if n < 0 then none
  else if bits m < n then some (.whole (if m < 0 then -1 else 0))
  else some (.whole (m.fdiv (Int.pow 2 n.toNat)))

/-- The bits that two whole numbers share, where a negative number has all bits beyond its first
ones. -/
def both (m n : Int) : Int :=
  if m < 0 then
    if n < 0 then -(Int.ofNat ((-m - 1).toNat ||| (-n - 1).toNat)) - 1
    else n - Int.ofNat (n.toNat &&& (-m - 1).toNat)
  else if n < 0 then m - Int.ofNat (m.toNat &&& (-n - 1).toNat)
  else Int.ofNat (m.toNat &&& n.toNat)

/-- The bits that one of two whole numbers has. -/
def either (m n : Int) : Int :=
  m + n - both m n

/-- The bits of two whole numbers as a constant: a flag for two flags. -/
def joined (operate : Int → Int → Int) (a b : Constant) (m n : Int) : Constant :=
  match a, b with
  | flag _, flag _ => flag (operate m n ≠ 0)
  | _, _ => whole (operate m n)

/-- A row repeated, if it does not become too long. -/
def repeated {α : Type} (limit : Nat) (items : List α) (n : Int) : Option (List α) :=
  if items.isEmpty then some []
  else if n < 0 || limit / items.length < n then none
  else some ((List.replicate n.toNat items).flatten)

/-- A number of bytes repeated, if it does not become too large. -/
def repeatedBytes (size : Nat) (n : Int) : Option Nat :=
  if size = 0 then some 0
  else if n < 0 || maxCharacters / size < n then none
  else some (size * n.toNat)

/-- What two constants come to between which a sign stands. -/
def binary? (sign : String) (a b : Constant) : Option Constant :=
  match a.number?, b.number? with
  | some m, some n =>
    match sign, m, n with
    | "+", _, _ => sum (· + ·) m n
    | "-", _, _ => sum (· - ·) m n
    | "*", _, _ => product m n
    | "/", _, _ => quotient m n
    | "//", _, _ => division Int.fdiv m n
    | "%", _, _ => division Int.fmod m n
    | "**", _, _ => power m n
    | "<<", .whole m, .whole n => shiftLeft m n
    | ">>", .whole m, .whole n => shiftRight m n
    | "&", .whole m, .whole n => some (joined both a b m n)
    | "|", .whole m, .whole n => some (joined either a b m n)
    | "^", .whole m, .whole n => some (joined (fun m n => either m n - both m n) a b m n)
    | _, _, _ => none
  | _, _ =>
    match sign, a, b with
    | "+", text s, text t => some (text (s ++ t))
    | "+", bytes m, bytes n => some (bytes (m + n))
    | "+", group s, group t => some (group (s ++ t))
    | "*", text s, n | "*", n, text s => do
      return text (← repeated maxCharacters s (← whole? n))
    | "*", bytes s, n | "*", n, bytes s => do
      return bytes (← repeatedBytes s (← whole? n))
    | "*", group s, n | "*", n, group s => do
      return group (← repeated maxItems s (← whole? n))
    | _, _, _ => none
where
  /-- A constant as a whole number, if it is one. -/
  whole? (c : Constant) : Option Int :=
    match c.number? with
    | some (.whole n) => some n
    | _ => none

/-- Whether a constant counts as true. -/
def isTrue : Constant → Bool
  | nothing => false
  | dots => true
  | flag b => b
  | whole n => n ≠ 0
  | real z | imaginary z => !z
  | text s => !s.isEmpty
  | bytes n => n ≠ 0
  | group s => !s.isEmpty

/-- What a constant comes to behind a sign. -/
def unary? (sign : String) (a : Constant) : Option Constant :=
  if sign = "not" then some (flag !a.isTrue)
  else
    match sign, a.number? with
    | "+", some (.whole n) => some (whole n)
    | "-", some (.whole n) => some (whole (-n))
    | "~", some (.whole n) => some (whole (-n - 1))
    | "~", _ | _, none => none
    | _, some (.real z) => some (real z)
    | _, some (.imaginary z) => some (imaginary z)
    | _, _ => none

/-- An item by its place, counted from the end if the place is negative. -/
def itemAt? {α : Type} (items : List α) (place : Int) : Option α :=
  if 0 ≤ place then items[place.toNat]?
  else
    let back := (-place).toNat
    if items.length < back then none else items[items.length - back]?

/-- What a constant comes to that is indexed by another one. Of bytes the item is a number. -/
def item? (a i : Constant) : Option Constant := do
  let .whole place ← i.number? | none
  match a with
  | text s => return text [← itemAt? s place]
  | group s => itemAt? s place
  | bytes n => return whole (Int.ofNat (← itemAt? (List.range n) place))
  | _ => none

end NetPlan.Script.Constant
