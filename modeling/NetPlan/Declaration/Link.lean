import NetPlan.Declaration.Numeral

/-!
# Links

The key of a declaration tells which node a layer reads and which it writes. It is written either
`layer[A->B]`, from node `A` to node `B`, or `layer[+B]`, from the node that the previous layer
wrote to the one `B` further on. White space may stand around the numbers, and one line feed may
stand at the very end.

The grammar needs no search: neither a number nor white space holds an arrow or a bracket, so a key
is cut at its first arrow and the parts are looked at. Only the upper bound of a node is checked.
-/

namespace NetPlan

/-- The two forms of a link, with the numbers as they are written. -/
inductive Link where
  | between (source target : List Char)
  | onward (distance : List Char)
deriving DecidableEq, Repr

namespace Link

/-- The text without one line feed at its end. -/
def dropFinalNewline (cs : List Char) : List Char :=
  if cs.getLast? = some '\n' then cs.dropLast else cs

/-- What stands between the brackets of a key. -/
def inner? (key : List Char) : Option (List Char) := do
  let rest ← layerLead.toList.isPrefixOf? key
  let body := dropFinalNewline rest
  if body.getLast? = some ']' then some body.dropLast else none

/-- The parts of a text before and behind its first arrow. -/
def splitArrow? : List Char → Option (List Char × List Char)
  | [] => none
  | '-' :: '>' :: rest => some ([], rest)
  | c :: rest => (splitArrow? rest).map fun parts => (c :: parts.1, parts.2)

/-- The link that stands between the brackets. -/
def ofInner? (inner : List Char) : Option Link :=
  match splitArrow? inner with
  | some (source, target) => do
    return between (← paddedDigits? source) (← paddedDigits? target)
  | none =>
    match Text.trimStart inner with
    | '+' :: rest => (paddedDigits? rest).map onward
    | _ => none

/-- The link that a key writes. -/
def parse? (key : String) : Option Link :=
  (inner? key.toList).bind ofInner?

/-- The nodes that a link joins, where `top` is the node that the previous layer wrote. -/
def ends (top : Int) : Link → Except Fault (Int × Int)
  | between source target => do
    let a ← readDigits source
    let b ← readDigits target
    return (a, b)
  | onward distance => do
    let n ← readDigits distance
    return (top, top + n)

/-- The nodes that a key joins. -/
def read (key : String) (top : Int) : Except Fault (Int × Int) :=
  match parse? key with
  | none => .error (.malformedLink key)
  | some link => do
    let nodes ← link.ends top
    if maxNodeIndex < max nodes.1 nodes.2 then
      .error (.nodeOutOfRange key)
    else
      .ok nodes

end Link

end NetPlan
