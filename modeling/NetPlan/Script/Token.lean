/-!
# Tokens

A script is cut into **tokens**: names and reserved words, numbers, literals, signs, and marks for
the ends of lines and for a margin that grows or shrinks. A number is cut by its form.
-/

namespace NetPlan.Script

/-- The forms of numbers. -/
inductive NumberForm where
  | hexadecimal
  | octal
  | binary
  | decimal
  | imaginary
deriving DecidableEq, Repr

/-- The word for a form. -/
def NumberForm.word : NumberForm → String
  | hexadecimal => "hexadecimal"
  | octal => "octal"
  | binary => "binary"
  | decimal => "decimal"
  | imaginary => "imaginary"

/-- What can be doubted about a script that is not wrong. -/
inductive Doubt where
  /-- An escape, with its backslash, that has no meaning of its own. -/
  | escape (text : List Char)
  /-- A word follows a number without a space. -/
  | number (form : NumberForm)
  /-- A value is compared by identity, or by the lack of it, with a constant. -/
  | identity (negated : Bool)
  /-- A value of a type is called. -/
  | call (type : String)
  /-- A value of a type is indexed. -/
  | subscript (type : String)
  /-- A value of a type is indexed by one of another type. -/
  | index (type other : String)
  /-- An assertion of something that is never empty. -/
  | assertion
deriving DecidableEq, Repr

/-- The wording of a doubt. -/
def Doubt.message : Doubt → String
  | escape text =>
    let lead := if text.length = 2 then "invalid" else "invalid octal"
    lead ++ " escape sequence '" ++ String.ofList text ++ "'"
  | number form => s!"invalid {form.word} literal"
  | identity false => "\"is\" with a literal. Did you mean \"==\"?"
  | identity true => "\"is not\" with a literal. Did you mean \"!=\"?"
  | call type => s!"'{type}' object is not callable; perhaps you missed a comma?"
  | subscript type => s!"'{type}' object is not subscriptable; perhaps you missed a comma?"
  | index type other =>
    s!"{type} indices must be integers or slices, not {other}; perhaps you missed a comma?"
  | assertion => "assertion is always true, perhaps remove parentheses?"

/-- The sorts of tokens. -/
inductive TokenSort where
  | name
  | reserved
  | number
  | literal
  | sign
  /-- The end of a line. -/
  | newline
  /-- A margin that grows. -/
  | indent
  /-- A margin that shrinks. -/
  | dedent
  | finish
deriving DecidableEq, Repr

/-- A token, the line that it starts on, and how many brackets are open behind it. -/
structure Token where
  sort : TokenSort
  text : String
  line : Nat
  depth : Nat
  doubt? : Option Doubt := none
deriving DecidableEq, Repr

/-- The words that cannot be names. -/
def reservedWords : List String :=
  ["False", "None", "True", "and", "as", "assert", "async", "await", "break", "class", "continue",
    "def", "del", "elif", "else", "except", "finally", "for", "from", "global", "if", "import", "in",
    "is", "lambda", "nonlocal", "not", "or", "pass", "raise", "return", "try", "while", "with",
    "yield"]

/-- The words that are names except in some places. -/
def softWords : List String :=
  ["_", "case", "match"]

/-- The letters that can stand before the quotes of a literal, in lower case. -/
def marks : List String :=
  ["b", "br", "f", "fr", "r", "rb", "rf", "u"]

/-- The signs of two characters. -/
def pairSigns : List String :=
  ["!=", "%=", "&=", "**", "*=", "+=", "-=", "->", "//", "/=", ":=", "<<", "<=", "<>", "==", ">=",
    ">>", "@=", "^=", "|="]

/-- The signs of three characters. Two of each are a sign themselves, but for the dots. -/
def tripleSigns : List String :=
  ["**=", "...", "//=", "<<=", ">>="]

/-- Whether a character can stand in a word, or is beyond ASCII and taken for one that can. -/
def isWordLike (c : Char) : Bool :=
  c.isAlphanum || c = '_' || 128 ≤ c.toNat

/-- Whether a character can stand between tokens of a line. -/
def isSpace (c : Char) : Bool :=
  c = ' ' || c = '\t' || c = '\x0c'

end NetPlan.Script
