/-!
# Paths

A part of a model is known by its **path**: the names on the way to it, with dots between them. The
path of the model itself is empty.
-/

namespace NetPlan.Path

/-- The path of a child. -/
def join (path name : String) : String :=
  if path = "" then name else path ++ "." ++ name

/-- The pieces of a text between its dots, one more than there are dots. -/
def splitDots : List Char → List (List Char)
  | [] => [[]]
  | c :: rest =>
    if c = '.' then [] :: splitDots rest
    else
      match splitDots rest with
      | [] => [[c]]
      | piece :: pieces => (c :: piece) :: pieces

/-- The names on the way that a path describes. -/
def names (path : String) : List String :=
  if path = "" then [] else (splitDots path.toList).map String.ofList

end NetPlan.Path
