import NetPlan.Fault
import NetPlan.Text.Blank
import NetPlan.Text.Digit

/-!
# Numbers in declarations

A number is a run of decimal digits of any scripts, with white space around it. A run that is too
long is refused, whatever its value: leading zeros count.
-/

namespace NetPlan

/-- The digits of a text that is a number with white space around it. -/
def paddedDigits? (cs : List Char) : Option (List Char) :=
  let digits := Text.trim cs
  if Text.isDigitRun digits then some digits else none

/-- The value of a run of digits, unless the run is too long. -/
def readDigits (digits : List Char) : Except Fault Nat :=
  if maxDigits < digits.length then
    .error (.longNumeral digits.length)
  else
    .ok (Text.digitRunValue digits)

end NetPlan
