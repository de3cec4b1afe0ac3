import Mathlib.Order.MinMax
import NetPlan.Proofs.Declaration.Reading

/-!
# Numbers beyond their range

A number is turned down for its digits or for its value, and the digits come first: the runs of a
link or of a shape are measured in the order in which they stand, and the first one that is too long
is reported (`longRun?`). Values are looked at only when no run is too long. With the form of the
text, which comes before both, this gives all faults of links and shapes (`Link.read_eq_error_iff`,
`Shape.read_eq_error_iff`).
-/

namespace NetPlan

open Text

variable {f : Fault}

/-! ### Links -/

namespace Link

variable {top : Int} {key : String}

/-- The runs of digits of the link that a key writes. -/
def runsOf (key : String) : List (List Char) :=
  ((parse? key).map runs).getD []

/-- The link that a key writes joins a node beyond the largest one. -/
def Exceeds (key : String) (top : Int) : Prop :=
  ∃ link, parse? key = some link ∧
    (maxNodeIndex < (link.reach top).1 ∨ maxNodeIndex < (link.reach top).2)

/-- **When a key is turned down**: it writes no link; or a run of its link is too long, and the
first of these is reported; or, if none is, a node is beyond the largest one. -/
theorem read_eq_error_iff :
    read key top = .error f ↔
      (parse? key = none ∧ f = .malformedLink key) ∨
      (∃ n, longRun? (runsOf key) = some n ∧ f = .longNumeral n) ∨
      (longRun? (runsOf key) = none ∧ Exceeds key top ∧ f = .nodeOutOfRange key) := by
  unfold read runsOf Exceeds
  cases hparse : parse? key with
  | none => simp [eq_comm]
  | some link =>
    simp only [ends_eq, Option.map_some, Option.getD_some, Option.some.injEq, exists_eq_left',
      reduceCtorEq, false_and, false_or]
    cases hlong : longRun? link.runs with
    | some n => simp [bind, Except.bind, eq_comm]
    | none =>
      simp only [bind, Except.bind, reduceCtorEq, false_and, exists_false, false_or, true_and,
        lt_max_iff]
      split
      · rename_i hbeyond
        simp [hbeyond, eq_comm]
      · rename_i hwithin
        simp [hwithin]

end Link

/-! ### Shapes -/

namespace Shape

variable {value : String}

/-- The runs of digits of the shape that a value writes. -/
def runsOf (value : String) : List (List Char) :=
  match parts? (trim value.toList) with
  | some (channels, height, width) => [channels, height, width]
  | none => []

/-- The shape that a value writes has a dimension beyond the largest one. -/
def Exceeds (value : String) : Prop :=
  ∃ run ∈ runsOf value, maxDimension < digitRunValue run

/-- **When a shape is turned down**: it is not three numbers; or a run of digits is too long, and
the first of these is reported; or, if none is, a dimension is beyond the largest one. -/
theorem read_eq_error_iff :
    read value = .error f ↔
      (parts? (trim value.toList) = none ∧ f = .malformedShape) ∨
      (∃ n, longRun? (runsOf value) = some n ∧ f = .longNumeral n) ∨
      (longRun? (runsOf value) = none ∧ Exceeds value ∧ f = .dimensionOutOfRange value) := by
  unfold read Exceeds runsOf
  cases hparts : parts? (trim value.toList) with
  | none => simp [eq_comm]
  | some parts =>
    obtain ⟨channels, height, width⟩ := parts
    simp only [readDigits_bind, longRun?_cons]
    split
    · simp [eq_comm]
    · split
      · simp [eq_comm]
      · split
        · simp [eq_comm]
        · simp only [longRun?_nil, lt_max_iff, List.mem_cons, List.not_mem_nil, or_false,
            exists_eq_or_imp, exists_eq_left, reduceCtorEq, false_and, exists_false, false_or,
            true_and, or_assoc]
          split
          · rename_i hbeyond
            simp [hbeyond, eq_comm]
          · rename_i hwithin
            simp [hwithin]

end Shape

end NetPlan
