import NetPlan.Script.Flaw

/-!
# Trees

What a script says is held in a **tree**. A node has a label, the line that it starts on, and its
parts; the label says what the node is and which part stands for what. A node of the label `series`
stands for its parts, one after another, and one of the label `absent` for a part that is left out.
-/

namespace NetPlan.Script

/-- A value that is written in a script. Of text the characters are kept, of bytes the number, and
of numbers with a fraction whether they are zero. -/
inductive Constant where
  | nothing
  | dots
  | flag (value : Bool)
  | whole (value : Int)
  | real (isZero : Bool)
  | imaginary (isZero : Bool)
  | text (value : List Char)
  | bytes (size : Nat)
  | group (items : List Constant)
deriving Repr

/-- The name of the type of a value. -/
def Constant.type : Constant → String
  | nothing => "NoneType"
  | dots => "ellipsis"
  | flag _ => "bool"
  | whole _ => "int"
  | real _ => "float"
  | imaginary _ => "complex"
  | text _ => "str"
  | bytes _ => "bytes"
  | group _ => "tuple"

/-- The comparisons that differ in what can be said about them. -/
inductive Relation where
  | identity
  | difference
  | membership
  | absence
  | other
deriving DecidableEq, Repr

/-- How a parameter takes arguments. -/
inductive ParameterSort where
  | plain
  | keywordOnly
  | rest
  | namedRest
deriving DecidableEq, Repr

/-- What a node of a tree is. The parts are named in their order. -/
inductive Label where
  -- Structure
  | absent
  | series
  | token (text : String)
  -- Expressions
  | name (text : String)
  | constant (value : Constant)
  /-- The fields of a template. -/
  | template
  /-- Expression, and a template for how to write it if there is one. -/
  | field
  | tuple
  | list
  | set
  /-- Pairs. -/
  | dict
  /-- Key and value; or a dictionary, behind no key. -/
  | pair
  /-- Element, of a dictionary a pair, and the clauses. -/
  | comprehension (sort : ComprehensionSort)
  /-- Target, iterable, and a series of conditions. -/
  | clause (async : Bool)
  | attribute (name : String)
  /-- Value and index. -/
  | subscript
  | slice
  /-- What is called, and a series of arguments. -/
  | call
  /-- Value of an argument with a name, or of a dictionary of arguments. -/
  | argument (name? : Option String)
  | starred
  | unary (sign : String)
  | binary (sign : String)
  /-- The operands of a chain of `or` or of `and`. -/
  | connective
  /-- The first operand, and a series of the others. -/
  | comparison (relations : List Relation)
  /-- Condition, first choice and second one. -/
  | choice
  /-- Parameters and body. -/
  | lambda
  | yielding
  | yieldingFrom
  | await
  /-- Target and value. -/
  | naming
  -- Parameters
  /-- Annotation and default. -/
  | parameter (sort : ParameterSort) (name : String)
  -- Statements
  | script
  | block
  | expression
  /-- A series of targets, and the value. -/
  | assignment
  /-- Target and value. -/
  | augmentation
  /-- Target, annotation and value; a name in brackets is no plain target. -/
  | annotating (plain : Bool)
  | returning
  | raising
  | outer (sort : Outer) (names : List String)
  | deletion
  | assertion
  /-- The names that are bound, and whether they come from a module of this name. -/
  | importing (module? : Option String) (names : List String)
  | pass
  | breaking
  | continuing
  /-- Decorators, parameters, annotation of the result, and body. -/
  | function (async : Bool) (name : String)
  /-- Decorators, arguments and body. -/
  | klass (name : String)
  /-- Condition, body and alternative. -/
  | conditional
  | whileLoop
  /-- Target, iterable, body and alternative. -/
  | forLoop (async : Bool)
  /-- A series of items, and the body. -/
  | context (async : Bool)
  /-- Expression, and the target if there is one. -/
  | contextItem
  /-- Body, a series of handlers, alternative and closing block. -/
  | attempt (group : Bool)
  /-- Expression and body. -/
  | handler (name? : Option String)
  /-- Subject and a series of cases. -/
  | matching
  /-- Pattern, condition and body. -/
  | matchCase
  -- Patterns
  | valuePattern
  | sequencePattern
  /-- Keys and patterns by turns. -/
  | mappingPattern (rest? : Option String)
  /-- Class, a series of patterns, and a series of named ones. -/
  | classPattern
  | namedPattern (name : String)
  | starPattern (name? : Option String)
  /-- The pattern that is captured, if any. -/
  | capture (name? : Option String)
  | alternatives
deriving Repr

/-- A tree. -/
inductive Tree where
  | node (label : Label) (line : Nat) (parts : List Tree)
deriving Repr

namespace Tree

def label : Tree → Label
  | node label _ _ => label

def line : Tree → Nat
  | node _ line _ => line

def parts : Tree → List Tree
  | node _ _ parts => parts

/-- The tree for what is left out. -/
def absent : Tree :=
  node .absent 0 []

instance : Inhabited Tree := ⟨absent⟩

/-- A part by its place. -/
def part (t : Tree) (i : Nat) : Tree :=
  t.parts[i]?.getD absent

/-- Whether a tree stands for what is left out. -/
def isAbsent (t : Tree) : Bool :=
  match t.label with
  | .absent => true
  | _ => false

/-- The trees that a tree stands for: those of its parts for a series, and none for what is left
out. -/
def spread : Tree → List Tree
  | node .series _ parts => spreadAll parts
  | node .absent _ _ => []
  | t => [t]
where
  spreadAll : List Tree → List Tree
    | [] => []
    | t :: rest => spread t ++ spreadAll rest

/-- The text of a token or a name; empty for other trees. -/
def text (t : Tree) : String :=
  match t.label with
  | .token text | .name text => text
  | _ => ""

end Tree

/-! ### Notes -/

/-- A tree with a note at each of its nodes. -/
inductive Noted (α : Type) where
  | node (label : Label) (line : Nat) (note : α) (parts : List (Noted α))

namespace Noted

variable {α : Type}

def label : Noted α → Label
  | node label _ _ _ => label

def line : Noted α → Nat
  | node _ line _ _ => line

def note : Noted α → α
  | node _ _ note _ => note

def parts : Noted α → List (Noted α)
  | node _ _ _ parts => parts

/-- The part at a place, if there is one. -/
def part? (t : Noted α) (place : Nat) : Option (Noted α) :=
  t.parts[place]?

/-- Whether a tree stands for what is left out. -/
def isAbsent (t : Noted α) : Bool :=
  match t.label with
  | .absent => true
  | _ => false

/-- The text of a name; empty for other trees. -/
def text (t : Noted α) : String :=
  match t.label with
  | .name text => text
  | _ => ""

end Noted

namespace Tree

mutual

/-- A tree with notes that are made of the labels, the lines and the noted parts. -/
def noted {α : Type} (make : Label → Nat → List (Noted α) → α) : Tree → Noted α
  | node label line parts =>
    let parts := notedAll make parts
    .node label line (make label line parts) parts

/-- Such trees for some trees. -/
def notedAll {α : Type} (make : Label → Nat → List (Noted α) → α) : List Tree → List (Noted α)
  | [] => []
  | t :: rest => noted make t :: notedAll make rest

end

/-- The name for a sort of expression. -/
def what (t : Tree) : String :=
  match t.label with
  | .attribute _ => "attribute"
  | .subscript => "subscript"
  | .starred => "starred"
  | .name _ => "name"
  | .list => "list"
  | .tuple => "tuple"
  | .lambda => "lambda"
  | .call => "function call"
  | .connective | .binary _ | .unary _ => "expression"
  | .comprehension .generator => "generator expression"
  | .yielding | .yieldingFrom => "yield expression"
  | .await => "await expression"
  | .comprehension .list => "list comprehension"
  | .comprehension .set => "set comprehension"
  | .comprehension .dict => "dict comprehension"
  | .dict => "dict literal"
  | .set => "set display"
  | .template | .field => "f-string expression"
  | .constant .nothing => "None"
  | .constant (.flag true) => "True"
  | .constant (.flag false) => "False"
  | .constant .dots => "ellipsis"
  | .constant _ => "literal"
  | .comparison _ => "comparison"
  | .choice => "conditional expression"
  | .naming => "named expression"
  | _ => ""

end Tree

end NetPlan.Script
