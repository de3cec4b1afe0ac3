import NetPlan.Model.Number

/-!
# Blocks of weights

The weights of an operator come in **blocks**: grids of cells, with an extent in each direction, of
which the first counts most. A block can be made if its extents are whole numbers that fit a signed
word, none is negative, and the counts that describe it fit a word too: its cells, its bytes, and
the distance of neighbours in the first direction. `Block.check` asks in this order.
-/

namespace NetPlan.Block

/-- The least and the largest extent: those that fit a signed word of 64 bits. -/
def extentBounds : Int × Int := (-9223372036854775808, 9223372036854775807)

/-- The number of counts of cells: those that fit an unsigned word of 64 bits. -/
def countLimit : Nat := 18446744073709551616

/-- The number of bytes that a cell takes. -/
def bytesPerCell : Nat := 4

/-- The largest number of bytes, and the largest distance of neighbours: those that fit a signed
word of 64 bits. -/
def maxLength : Nat := 9223372036854775807

/-- An extent as a whole number, if it is written as one and is within bounds. -/
def properExtent : Number → Except Fault Int
  | .whole n =>
    if extentBounds.1 ≤ n ∧ n ≤ extentBounds.2 then .ok n else .error .improperExtent
  | .float _ => .error .improperExtent

/-- The number of cells of a block, given that of the directions before. There is none if it goes
beyond the limit on the way, even if a later direction is empty. -/
def cellCount? (before : Nat) : List Int → Option Nat
  | [] => some before
  | extent :: rest =>
    let count := before * extent.toNat
    if count < countLimit then cellCount? count rest else none

/-- Whether a block has a number of bytes. -/
def fitsBytes (extents : List Int) : Bool :=
  (cellCount? 1 extents).any fun count => count * bytesPerCell ≤ maxLength

/-- The distance in cells of neighbours in the first direction. A direction that is empty counts as
one with a single cell. -/
def stride (extents : List Int) : Nat :=
  (extents.drop 1).foldl (fun cells extent => cells * max extent.toNat 1) 1

/-- Turns down the extents of a block that cannot be made. -/
def check (extents : List Number) : Except Fault Unit := do
  let extents ← extents.mapM properExtent
  match extents.find? (· < 0) with
  | some n => throw (.negativeExtent n extents)
  | none =>
    if !fitsBytes extents then throw (.oversizedBlock extents)
    else if maxLength < stride extents then throw .oversizedStride
    else return ()

/-- The block of a bias with an extent, if there is a bias. -/
def ofBias (bias : Bool) (extent : Number) : List (List Number) :=
  if bias then [[extent]] else []

end NetPlan.Block
