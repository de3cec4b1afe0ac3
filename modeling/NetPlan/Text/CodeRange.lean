/-!
# Ranges of code points

A character class of a standard is given here as a list of ranges of code points, both ends
included. `inRanges` is membership in such a list.
-/

namespace NetPlan.Text

/-- The code points from `first` to `last`, both included. -/
structure CodeRange where
  first : Nat
  last : Nat
deriving DecidableEq, Repr

/-- Whether a code point lies in the range. -/
def CodeRange.contains (r : CodeRange) (n : Nat) : Bool :=
  r.first ≤ n && n ≤ r.last

/-- Whether a character lies in one of the ranges. -/
def inRanges (rs : List CodeRange) (c : Char) : Bool :=
  rs.any (·.contains c.toNat)

end NetPlan.Text
