/-!
# Comments

A `#` starts a comment unless it stands between double quotes. A backslash takes away the meaning
of the character behind it, inside quotes and outside.
-/

namespace NetPlan.Sheet

/-- The text before the first comment, read on from a point inside a line. There, `inQuote` tells
whether a quote is open and `escaped` whether the last character was an active backslash. -/
def cutFrom (inQuote escaped : Bool) : List Char → List Char
  | [] => []
  | c :: rest =>
    if escaped then c :: cutFrom inQuote false rest
    else if c = '\\' then c :: cutFrom inQuote true rest
    else if c = '"' then c :: cutFrom (!inQuote) false rest
    else if c = '#' ∧ inQuote = false then []
    else c :: cutFrom inQuote false rest

/-- The part of a line before its comment. -/
def cutComment (line : List Char) : List Char :=
  cutFrom false false line

end NetPlan.Sheet
