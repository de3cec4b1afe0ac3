import Std.Data.HashMap
import NetPlan.Script.Flaw

/-!
# Naming

The result of each call in a listing has a **name** of its own. It is made of what is called: words
in mixed case are parted by underscores, letters become small, and a run of other characters becomes
one underscore. A name ends in a number if the base in front of the number is taken without one, or
by a word that must not be hidden; for each base the last number is kept.

A number may be read or written only with so many digits.
-/

namespace NetPlan.Listing

/-- Why a result cannot be named. -/
inductive NamingFlaw where
  /-- A number is to be read that has too many digits. -/
  | longNumber (digits : Nat)
  /-- A number is to be written that has too many digits. -/
  | greatNumber
deriving DecidableEq, Repr

/-- The wording of such a flaw. -/
def NamingFlaw.message : NamingFlaw → String
  | longNumber digits => Script.digitLimitMessage digits
  | greatNumber =>
    "Exceeds the limit (4300 digits) for integer string conversion; use " ++
      "sys.set_int_max_str_digits() to increase the limit"

/-! ### Hints -/

/-- A letter as a small one. Beyond ASCII only the letters whose small form starts with one of ASCII
are looked at. -/
def toSmall (c : Char) : List Char :=
  if c = '\u212A' then ['k']
  else if c = '\u0130' then ['i', '\u0307']
  else [c.toLower]

/-- A text with an underscore before each capital letter behind a small one. -/
def partWords : List Char → List Char
  | a :: b :: rest =>
    if a.isLower && b.isUpper then a :: '_' :: partWords (b :: rest) else a :: partWords (b :: rest)
  | cs => cs

/-- Whether a character can stand in a name. -/
def isNameChar (c : Char) : Bool :=
  c.isAlphanum || c = '_'

/-- A text with one underscore for each run of characters that cannot stand in a name; `inRun` says
whether such a run goes on. -/
def joinRuns (inRun : Bool) : List Char → List Char
  | [] => []
  | c :: rest =>
    if isNameChar c then c :: joinRuns false rest
    else if inRun then joinRuns true rest
    else '_' :: joinRuns true rest

/-- The two underscores around the name of a special method. -/
def guardMark : List Char :=
  ['_', '_']

/-- What is called without the underscores around the name of a special method. -/
def unguarded (target : List Char) : List Char :=
  if guardMark.isPrefixOf target && guardMark.isSuffixOf target then
    (target.take (target.length - 2)).drop 2
  else target

/-- The name that a text hints at. -/
def nameOfHint (hint : List Char) : List Char :=
  let name := joinRuns false ((partWords (unguarded hint)).flatMap toSmall)
  let name := if name.isEmpty then "_unnamed".toList else name
  if name.head?.any Char.isDigit then '_' :: name else name

/-! ### Numbers -/

/-- The most digits that a number may have. -/
def maxDigits : Nat := 4300

/-- The least number that has more digits than that. -/
def numberLimit : Nat := Nat.pow 10 maxDigits

/-- A number in digits, if it has not too many. -/
def digitsOf (n : Nat) : Except NamingFlaw (List Char) :=
  if numberLimit ≤ n then .error .greatNumber else .ok (Nat.toDigits 10 n)

/-- A name as a base and the digits behind its last underscore, if digits stand there. -/
def splitNumber (name : List Char) : List Char × Option (List Char) :=
  let backward := name.reverse
  let digits := backward.takeWhile Char.isDigit
  match backward.drop digits.length with
  | '_' :: base => if digits.isEmpty then (name, none) else (base.reverse, some digits.reverse)
  | _ => (name, none)

/-- The value of digits, if there are not too many. -/
def valueOf (digits : List Char) : Except NamingFlaw Nat :=
  if maxDigits < digits.length then .error (.longNumber digits.length)
  else .ok (Nat.ofDigitChars 10 digits 0)

/-- A name with a number. -/
def numbered (base : List Char) (n : Nat) : Except NamingFlaw String := do
  return String.ofList (base ++ '_' :: (← digitsOf n))

/-! ### Names in use -/

/-- The words that a name must not hide: reserved ones and those of what is always at hand. Words
with capital letters are not listed, as no name has any. -/
def guardedWords : List String :=
  Script.reservedWords ++
    ["__build_class__", "__debug__", "__doc__", "__import__", "__loader__", "__name__",
      "__package__", "__spec__", "abs", "aiter", "all", "anext", "any", "ascii", "bin", "bool",
      "breakpoint", "bytearray", "bytes", "callable", "chr", "classmethod", "compile", "complex",
      "copyright", "credits", "delattr", "dict", "dir", "divmod", "enumerate", "eval", "exec",
      "exit", "filter", "float", "format", "frozenset", "getattr", "globals", "hasattr", "hash",
      "help", "hex", "id", "input", "int", "isinstance", "issubclass", "iter", "len", "license",
      "list", "locals", "map", "max", "memoryview", "min", "next", "object", "oct", "open", "ord",
      "pow", "print", "property", "quit", "range", "repr", "reversed", "round", "set", "setattr",
      "slice", "sorted", "staticmethod", "str", "sum", "super", "tuple", "type", "vars", "zip",
      "inf", "nan", "torch", "device", "fx_pytree", "pytree"]

/-- The names in use, and the last number behind each base. -/
structure Names where
  used : Std.HashMap String Unit := {}
  last : Std.HashMap String Nat := {}

/-- Whether a name is not to be had. -/
def Names.isTaken (names : Names) (name : String) : Bool :=
  names.used.contains name || guardedWords.contains name

/-- The first name that is free of a name and those behind it with further numbers, and its number.
Each of them is another name, so a free one is found within a bound of one more than there are names
in use and guarded words. -/
def Names.search (names : Names) (base : List Char) (name : String) (n : Nat) :
    Nat → Except NamingFlaw (String × Nat)
  | 0 => .ok (name, n)
  | bound + 1 => do
    if names.isTaken name then
      names.search base (← numbered base (n + 1)) (n + 1) bound
    else return (name, n)

/-- A free name for a hint, and the names with it. -/
def Names.add (names : Names) (hint : String) : Except NamingFlaw (String × Names) := do
  let (base, digits?) := splitNumber (nameOfHint hint.toList)
  let number? ← digits?.mapM valueOf
  let key := String.ofList base
  let first ← match number? with
    | some n => numbered base n
    | none => pure key
  let start := match number? with
    | some (n + 1) => n + 1
    | _ => (names.last[key]?).getD 0
  let (name, n) ← names.search base first start (names.used.size + guardedWords.length + 1)
  return (name, { used := names.used.insert name (), last := names.last.insert key n })

end NetPlan.Listing
