import NetPlan.Script.Arithmetic

/-!
# Folding

A tree is **folded** before it is looked at: an operation on constants becomes the constant that it
comes to, a tuple of constants becomes a constant group, a negated comparison becomes its opposite,
and a text that is filled in with the items of a tuple becomes a template.

What a value is assigned to keeps its form. Its parts that stand for values are folded.
-/

namespace NetPlan.Script

namespace Fold

/-- Whether a part of a node is a place that something is assigned to, or is deleted, given whether
the node is. -/
def isTarget (label : Label) (inTarget : Bool) (place : Nat) : Bool :=
  match label with
  | .assignment | .augmentation | .annotating _ | .forLoop _ | .clause _ | .naming => place = 0
  | .contextItem => place = 1
  | .deletion => true
  | .series | .tuple | .list | .starred => inTarget
  | _ => false

/-- The constants that trees stand for, if all of them do. -/
def constants? : List Tree → Option (List Constant)
  | [] => some []
  | .node (.constant c) _ _ :: rest => (constants? rest).map (c :: ·)
  | _ :: _ => none

/-- The opposite of a relation that has one. -/
def opposite? : Relation → Option Relation
  | .identity => some .difference
  | .difference => some .identity
  | .membership => some .absence
  | .absence => some .membership
  | .other => none

/-! ### Filling in a text -/

/-- The most digits of a width. -/
def maxWidthDigits : Nat := 3

/-- What stands behind a width of a few digits. -/
def behindWidth? (text : List Char) : Option (List Char) :=
  let digits := text.takeWhile Char.isDigit
  if digits.length < maxWidthDigits then some (text.drop digits.length) else none

/-- What stands behind a plain conversion of a value, without its percent sign. -/
def behindConversion? (text : List Char) : Option (List Char) := do
  let rest ← behindWidth? (text.dropWhile (['-', '+', ' ', '#', '0'].contains ·))
  let rest ← match rest with
    | '.' :: more => behindWidth? more
    | _ => some rest
  match rest with
  | c :: more => if ['s', 'r', 'a'].contains c then some more else none
  | [] => none

/-- How many values a text takes if all its conversions are plain, with a bound. -/
def conversions? (count : Nat) : Nat → List Char → Option Nat
  | 0, _ | _, [] => some count
  | bound + 1, '%' :: rest =>
    match rest with
    | '%' :: more => conversions? count bound more
    | _ => (behindConversion? rest).bind (conversions? (count + 1) bound)
  | bound + 1, _ :: rest => conversions? count bound rest

/-- Whether a tree has a star. -/
def isStarred (t : Tree) : Bool :=
  match t.label with
  | .starred => true
  | _ => false

/-! ### Nodes -/

/-- The tree of a constant. -/
def constant (line : Nat) (c : Constant) : Tree :=
  .node (.constant c) line []

/-- A node whose parts are folded. -/
def node (label : Label) (line : Nat) (parts : List Tree) : Tree :=
  let whole := Tree.node label line parts
  match label, parts with
  | .name "__debug__", _ => constant line (.flag true)
  | .tuple, _ =>
    match constants? parts with
    | some cs => constant line (.group cs)
    | none => whole
  | .unary sign, [.node (.constant c) _ _] =>
    match c.unary? sign with
    | some c => constant line c
    | none => whole
  | .unary "not", [.node (.comparison [r]) _ operands] =>
    match opposite? r with
    | some r => .node (.comparison [r]) line operands
    | none => whole
  | .binary sign, [.node (.constant a) _ _, .node (.constant b) _ _] =>
    match a.binary? sign b with
    | some c => constant line c
    | none => whole
  | .binary "%", [.node (.constant (.text s)) _ _, .node .tuple _ items] =>
    if conversions? 0 s.length s = some items.length && !items.any isStarred then
      .node .template line (items.map fun i => .node .field i.line [i, .absent])
    else whole
  | .subscript, [.node (.constant a) _ _, .node (.constant i) _ _] =>
    match a.item? i with
    | some c => constant line c
    | none => whole
  | _, _ => whole

end Fold

namespace Tree

mutual

/-- A folded tree, given whether something is assigned to it. -/
def foldAs (inTarget : Bool) : Tree → Tree
  | .node label line parts =>
    let parts := foldParts label inTarget 0 parts
    if inTarget then .node label line parts else Fold.node label line parts

/-- Folded parts of a node from a place on. -/
def foldParts (label : Label) (inTarget : Bool) (place : Nat) : List Tree → List Tree
  | [] => []
  | t :: rest =>
    foldAs (Fold.isTarget label inTarget place) t :: foldParts label inTarget (place + 1) rest

end

/-- A folded tree. -/
def fold (t : Tree) : Tree :=
  foldAs false t

/-! ### Depth -/

/-- Whether a node counts for how deep a tree is: a statement, an expression or a pattern. -/
def isLevel : Label → Bool
  | .absent | .series | .token _ | .pair | .clause _ | .argument _ | .parameter _ _ | .script | .block
  | .contextItem | .handler _ | .matchCase | .namedPattern _ => false
  | _ => true

mutual

/-- How many statements, expressions and patterns of a tree lie within each other. -/
def depth : Tree → Nat
  | .node label _ parts => depthAll parts + if isLevel label then 1 else 0

/-- The depth of the deepest of some trees. -/
def depthAll : List Tree → Nat
  | [] => 0
  | t :: rest => max (depth t) (depthAll rest)

end

end Tree

end NetPlan.Script
