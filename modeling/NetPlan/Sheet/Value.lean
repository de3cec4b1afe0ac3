/-!
# Quoted values

A value that starts with a double quote is quoted: it must end with another quote that has no
backslash before it, and a quote inside is written with a backslash. Any other value stands for
itself.
-/

namespace NetPlan.Sheet

/-- The text with each backslash that stands before a quote left out. -/
def unescapeQuotes : List Char → List Char
  | [] => []
  | '\\' :: '"' :: rest => '"' :: unescapeQuotes rest
  | c :: rest => c :: unescapeQuotes rest

/-- A quote with a backslash before it. -/
def escapedQuote : List Char := ['\\', '"']

/-- Whether a text that starts with a quote also ends with one that closes it. -/
def isClosed (value : List Char) : Bool :=
  2 ≤ value.length && value.getLast? == some '"' && !escapedQuote.isSuffixOf value

/-- The text that a value stands for; `none` if a quote is not closed. -/
def unquote? (value : List Char) : Option (List Char) :=
  match value with
  | '"' :: rest => if isClosed value then some (unescapeQuotes rest.dropLast) else none
  | _ => some value

end NetPlan.Sheet
