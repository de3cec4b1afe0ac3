import NetPlan.Listing.Naming
import NetPlan.Model.Path
import NetPlan.Text.Digit
import NetPlan.Text.Letter
import NetPlan.Text.Lines

/-!
# Listings

The calls of a run can be written down as a **listing**, a script of one function with one line for
each call. What is called is reached by names: a name that is a word stands bare, any other in
quotes. Nothing in a name is changed for that, so quotes, backslashes and line ends in it may come
out as something else when the listing is read.

Lines that look like a count of the lines are left out.
-/

namespace NetPlan

/-- What is called in a listing. -/
inductive Callee where
  /-- The part at a path. -/
  | part (path : String)
  /-- A method of the data, which may be reached by names of what is in the data. -/
  | method (path : String)
  | function (name : String)
deriving DecidableEq, Repr

/-- What a listing is written from: whether the data gets a name of its own first, and what is
called, in order. -/
structure Listing where
  renamed : Bool
  callees : List Callee
deriving DecidableEq, Repr

namespace Callee

/-- The text that hints at the name of the result. -/
def hint : Callee → String
  | part path => path
  | method path => path
  | function name => name

/-- The names that lead to what is called, from the whole module or from the data. -/
def names : Callee → List String
  | part path | method path => (Path.splitDots path.toList).map String.ofList
  | function _ => []

end Callee

namespace Listing

/-! ### Names of the results -/

/-- The name of the data, as it is given. -/
def dataName (l : Listing) : String :=
  if l.renamed then "input" else "x"

/-- Names for the results of calls, given the names in use. -/
def resultNames (names : Names) : List Callee → Except NamingFlaw (List String × Names)
  | [] => .ok ([], names)
  | c :: rest => do
    let (name, names) ← names.add c.hint
    let (more, names) ← resultNames names rest
    return (name :: more, names)

/-- The names of the data and of the results. -/
def valueNames (l : Listing) : Except NamingFlaw (List String × Names) := do
  let (first, names) ← Names.add {} l.dataName
  let (more, names) ← resultNames names l.callees
  return (first :: more, names)

/-- Turns down calls whose results cannot be named. -/
def checkCalls (l : Listing) : Except NamingFlaw Unit := do
  let _ ← l.valueNames

/-- Turns down calls behind which what comes of them all cannot be named. -/
def checkNames (l : Listing) : Except NamingFlaw Unit := do
  let (_, names) ← l.valueNames
  let _ ← names.add "output"

/-! ### The text -/

/-- The text that reaches what has a name in what some text reaches. -/
def reach (base : List Char) (name : String) : List Char :=
  if Text.isWord name.toList then base ++ '.' :: name.toList
  else "getattr(".toList ++ base ++ ", \"".toList ++ name.toList ++ "\")".toList

/-- The call of a callee with a value. -/
def callText (value : String) (c : Callee) : List Char :=
  match c with
  | .part _ => c.names.foldl reach "self".toList ++ '(' :: value.toList ++ [')']
  | .method _ => c.names.foldl reach value.toList ++ "()".toList
  | .function name => "torch.".toList ++ name.toList ++ '(' :: value.toList ++ [')']

/-- The lines of calls, each of which takes the value before it and lets go of it, and the last
line. -/
def callLines (value : String) : List (String × Callee) → List Char
  | [] => "return ".toList ++ value.toList ++ ['\n']
  | (name, c) :: rest =>
    name.toList ++ " = ".toList ++ callText value c ++ ";  ".toList ++ value.toList ++
      " = None\n".toList ++ callLines name rest

/-- The line that gives the data a name of its own, if there is one. -/
def dataLine (l : Listing) (name : String) : List Char :=
  if l.renamed then name.toList ++ " = ".toList ++ l.dataName.toList ++ ['\n'] else []

/-- The pieces of a text between its line feeds. -/
def splitFeeds (text : List Char) : List (List Char) :=
  text.foldr (fun c pieces => if c = '\n' then [] :: pieces else push c pieces) [[]]
where
  /-- The pieces with a further character in front. -/
  push (c : Char) : List (List Char) → List (List Char)
    | [] => [[c]]
    | piece :: pieces => (c :: piece) :: pieces

/-- What stands in front of a count. -/
def countMark : List Char := "# COUNTER: ".toList

/-- The digits of the first count in a line, if there is one. -/
def countDigits? : List Char → Option (List Char)
  | [] => none
  | c :: rest =>
    if countMark.isPrefixOf (c :: rest) then
      let digits := ((c :: rest).drop countMark.length).takeWhile Text.isDigit
      if digits.isEmpty then countDigits? rest else some digits
    else countDigits? rest

/-- The lines of a text that hold no count. A count with too many digits cannot be read. -/
def dropCounts : List (List Char) → Except NamingFlaw (List (List Char))
  | [] => .ok []
  | line :: rest =>
    match countDigits? line with
    | some digits =>
      if maxDigits < digits.length then .error (.longNumber digits.length) else dropCounts rest
    | none => do return line :: (← dropCounts rest)

/-- The margin of the lines. -/
def margin : List Char := "    ".toList

/-- The text of a listing. -/
def text (l : Listing) : Except NamingFlaw (List Char) := do
  let (names, _) ← l.valueNames
  let first := names.headD ""
  let calls := callLines first (names.tail.zip l.callees)
  let lines ← dropCounts (splitFeeds (l.dataLine first ++ calls))
  let lines := lines.dropWhile List.isEmpty
  return Text.unifyNewlines
    ("\n\n\ndef forward(self, ".toList ++ l.dataName.toList ++ "):\n".toList ++
      ['\n'].intercalate (lines.map (margin ++ ·)))

end Listing

end NetPlan
