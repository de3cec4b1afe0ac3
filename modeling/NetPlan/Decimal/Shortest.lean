import NetPlan.Decimal.Binary64

/-!
# Shortest decimals

Of the decimals that read back as a given floating-point number, the one with the fewest digits, and
of those the nearest. All reals nearer to the number than to its neighbours read back as it; they
form an interval whose ends belong to it if the significand is even. The decimals with a given last
place form a **grid**, and the decimal wanted lies on the coarsest grid with a point in the
interval. Of each grid only the two points around the number need be looked at.

Lengths are counted in quarters of the last place of the significand, so all of them are whole.
-/

namespace NetPlan.Decimal

/-- The lower end of the interval. Below a power of two the neighbour is nearer than above it. -/
def lowerQuarters (significand : Nat) (exponent : Int) : Nat :=
  if significand = Binary64.leastFull ∧ Binary64.minExponent < exponent then 4 * significand - 1
  else 4 * significand - 2

/-- Whether one length is less than another, or equal to it where the end counts. -/
def precedes (closed : Bool) (a b : Nat) : Bool :=
  a < b || (closed && a == b)

/-- The digits of the point on the grid of `10 ^ place` that is nearest to a number and reads back
as it, if there is one; of two equally near ones the even one. -/
def gridPoint? (significand : Nat) (exponent place : Int) : Option Nat :=
  let (p, q) := powerFraction 2 (exponent - 2)
  let (s, t) := powerFraction 10 place
  let quarter := p * t
  let unit := q * s
  let value := 4 * significand * quarter
  let lower := lowerQuarters significand exponent * quarter
  let upper := (4 * significand + 2) * quarter
  let closed := significand % 2 == 0
  let below := value / unit
  let readsBack (digits : Nat) : Bool :=
    precedes closed lower (digits * unit) && precedes closed (digits * unit) upper
  let nearest := roundQuotient value unit
  if readsBack nearest then some nearest
  else if readsBack below then some below
  else if readsBack (below + 1) then some (below + 1)
  else none

/-- The coarsest place that is looked at: beyond the largest number. -/
def coarsestPlace : Int := 309

/-- The number of places that are looked at, down to the place of the smallest number. -/
def placeCount : Nat := 634

/-- The digits and the last place of the shortest decimal of a number. -/
def shortest (significand : Nat) (exponent : Int) : Nat × Int :=
  let places := (List.range placeCount).map fun (i : Nat) => coarsestPlace - i
  (places.findSome? fun place => (gridPoint? significand exponent place).map (·, place)).getD (0, 0)

end NetPlan.Decimal
