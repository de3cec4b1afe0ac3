import NetPlan.Declaration.Numeral
import NetPlan.Layer.Basic

/-!
# Shapes as they are written

The shape of the input is three numbers with commas between them, `c,h,w`, and no white space
inside.
-/

namespace NetPlan.Shape

/-- The three runs of digits that a text without white space at its ends is made of. -/
def parts? (cs : List Char) : Option (List Char × List Char × List Char) :=
  let isInside (c : Char) : Bool := c != ','
  match cs.dropWhile isInside with
  | ',' :: rest =>
    match rest.dropWhile isInside with
    | ',' :: width =>
      let channels := cs.takeWhile isInside
      let height := rest.takeWhile isInside
      if [channels, height, width].all Text.isDigitRun then
        some (channels, height, width)
      else none
    | _ => none
  | _ => none

/-- The shape that a value writes. -/
def read (value : String) : Except Fault Shape :=
  match parts? (Text.trim value.toList) with
  | none => .error .malformedShape
  | some (channels, height, width) => do
    let c ← readDigits channels
    let h ← readDigits height
    let w ← readDigits width
    if maxDimension < max (max (c : Int) h) w then
      .error (.dimensionOutOfRange value)
    else
      .ok ⟨c, h, w⟩

end NetPlan.Shape
