import NetPlan.Script.Grammar.Expression
import NetPlan.Script.Grammar.Mistake
import NetPlan.Script.Grammar.Pattern
import NetPlan.Script.Grammar.Statement
import NetPlan.Script.Template

/-!
# Derivations

A **derivation** matches the rules of the grammar with the tokens of a source. The alternatives of a
rule are tried in their order from the place of the parse, and an alternative that does not match
leaves nothing behind but what has been found out about places, what has been asked for, and doubts.

What some rules come to at a place is kept and not found out again. A rule that can start with
itself is first taken to match nothing; as long as its alternatives then reach further, what they
come to is taken for it.

Rules may lie within each other only so deep, so a derivation has a **depth** that is left.
-/

namespace NetPlan.Script

/-- The production of a rule. -/
def Rule.production : Rule → Production
  | statement r => Grammar.statementProduction r
  | expression r => Grammar.expressionProduction r
  | pattern r => Grammar.patternProduction r
  | mistake r => Grammar.mistakeProduction r

namespace Derivation

/-- The most rules that may lie within each other. -/
def maxDepth : Nat := 6000

/-- What the items of an alternative have come to; or that one does not match, and whether no other
alternative counts then. -/
inductive Matched where
  | all (trees : Array Tree)
  | failed (committed : Bool)

/-- How items that need a depth of their own are matched. -/
abbrev Below := Item → Parse (Option Tree)

/-- The tree of a token. -/
def tokenTree (t : Token) : Tree :=
  .node (if t.sort = .name then .name t.text else .token t.text) t.line []

/-- Matches the next token, if it is wanted. -/
def matchToken (s : Source) (wanted : Token → Bool) : Parse (Option Tree) := do
  match ← s.token with
  | some t =>
    if wanted t then
      Parse.goTo ((← Parse.place) + 1)
      return some (tokenTree t)
    else return none
  | none => return none

/-- Whether a token is a reserved word or a sign with a text. -/
def isSign (text : String) (t : Token) : Bool :=
  (t.sort = .sign || t.sort = .reserved) && t.text = text

/-- Matches a sign without which there is a flaw. -/
def matchForced (s : Source) (text : String) : Parse (Option Tree) := do
  match ← matchToken s (isSign text) with
  | some t => return some t
  | none =>
    match ← s.token with
    | some t => s.complainAt (.form (.expected text)) t.line
    | none => return none

/-- Matches a number, for its value. -/
def matchNumber (s : Source) : Parse (Option Tree) := do
  match ← matchToken s (·.sort = .number) with
  | some t =>
    match Constant.ofNumber t.text with
    | .ok c => return some (.node (.constant c) t.line [])
    | .error flaw => s.complainAt (.literal flaw) t.line
  | none => return none

/-- Matches an item. -/
def matchItem (s : Source) (below : Below) : Item → Parse (Option Tree)
  | .sign text => matchToken s (isSign text)
  | .forced text => matchForced s text
  | .soft text => matchToken s fun t => t.sort = .name && t.text = text
  | .anySoft => matchToken s fun t => t.sort = .name && softWords.any (·.startsWith t.text)
  | .name => matchToken s (·.sort = .name)
  | .number => matchNumber s
  | .literal => matchToken s (·.sort = .literal)
  | .newline => matchToken s (·.sort = .newline)
  | .indent => matchToken s (·.sort = .indent)
  | .dedent => matchToken s (·.sort = .dedent)
  | .finish => matchToken s (·.sort = .finish)
  | .maybe i => do return some ((← matchItem s below i).getD Tree.absent)
  | .ahead i => do
    let place ← Parse.place
    let found ← matchItem s below i
    Parse.goTo place
    return found.map fun _ => Tree.absent
  | .notAhead i => do
    let place ← Parse.place
    let found ← matchItem s below i
    Parse.goTo place
    return if found.isSome then none else some Tree.absent
  | .peek => do
    let _ ← s.token
    return some Tree.absent
  | .commit => return some Tree.absent
  | i => below i

/-- Whether an item commits to its alternative. -/
def isCommit : Item → Bool
  | .commit => true
  | _ => false

/-- Matches items one after another, behind others. -/
def matchItems (s : Source) (below : Below) (committed : Bool) (found : Array Tree) :
    List Item → Parse Matched
  | [] => return .all found
  | i :: rest => do
    match ← matchItem s below i with
    | some t => matchItems s below (committed || isCommit i) (found.push t) rest
    | none => return .failed committed

/-- How many brackets are open behind the last token that has been matched. -/
def depthBehind (s : Source) (p : Progress) : Nat :=
  match s.tokens.list[p.place - 1]? with
  | some t => t.depth
  | none => 0

/-- Goes on with an outcome. -/
def settle (s : Source) : Outcome → Parse (Option Tree)
  | .tree t => return some t
  | .refusal => return none
  | .flaw f (some line) => s.complainAt (.form f) line
  | .flaw f none => s.complain (.form f)

/-- What an alternative comes to, given its line and the trees of its items. -/
def finish (s : Source) (line : Nat) (trees : Array Tree) : Build → Parse (Option Tree)
  | .by make => settle s (make line trees)
  | .inBrackets make => do
    if depthBehind s (← get) = 0 then return none else settle s (make trees)
  | .literals => do
    let tokens := ((trees[0]?).getD Tree.absent).parts
    return some (← Literal.join s line (tokens.map fun t => Literal.ofToken t.text t.line))

/-- The line of the next token; it is not asked for. -/
def lineAhead (s : Source) (place : Nat) : Nat :=
  match s.tokens.list[place]? with
  | some t => t.line
  | none => 0

/-- Matches the first alternative that matches at a place. -/
def matchFirst (s : Source) (below : Below) (place : Nat) :
    List Alternative → Parse (Option Tree)
  | [] => return none
  | a :: rest => do
    if a.forMistakes && !(← get).searching then matchFirst s below place rest
    else
      match ← matchItems s below false #[] a.items with
      | .all trees => finish s (lineAhead s place) trees a.build
      | .failed committed =>
        Parse.goTo place
        if committed then return none else matchFirst s below place rest

/-- Matches an item as often as it matches, with a bound. -/
def repeatItem (match1 : Parse (Option Tree)) (found : Array Tree) : Nat → Parse (Array Tree)
  | 0 => return found
  | bound + 1 => do
    let place ← Parse.place
    match ← match1 with
    | some t => repeatItem match1 (found.push t) bound
    | none =>
      Parse.goTo place
      return found

/-- The node of a row of trees. -/
def series (line : Nat) (trees : Array Tree) : Tree :=
  .node .series line trees.toList

/-- The number under which it is kept what a rule comes to at a place. -/
def key (place : Nat) (r : Rule) : Nat :=
  place * Rule.bound + r.index

/-- Keeps what a rule comes to at a place. -/
def keep (place : Nat) (r : Rule) (found : Option Tree) : Parse Unit :=
  modify fun p => { p with found := p.found.insert (key place r) (found, p.place) }

/-- Lets a tree that starts with itself grow, with a bound. -/
def grow (below : Below) (r : Rule) (start : Nat) (tree? : Option Tree) : Nat → Parse (Option Tree)
  | 0 => return tree?
  | bound + 1 => do
    keep start r tree?
    let reached ← Parse.place
    Parse.goTo start
    match ← below (.grown r) with
    | some t =>
      if reached < (← Parse.place) then grow below r start (some t) bound
      else
        Parse.goTo reached
        return tree?
    | none =>
      Parse.goTo reached
      return tree?

/-- Matches the alternatives of a rule, with or without mistakes below it. -/
def matchProduction (s : Source) (below : Below) (place : Nat) (p : Production) :
    Parse (Option Tree) := do
  if p.sheltered then
    let searching := (← get).searching
    modify fun p => { p with searching := false }
    let found ← matchFirst s below place p.alternatives
    modify fun p => { p with searching }
    return found
  else matchFirst s below place p.alternatives

/-- Matches a rule. -/
def matchRule (s : Source) (below : Below) (r : Rule) : Parse (Option Tree) := do
  let place ← Parse.place
  let production := r.production
  if !production.kept && !production.recursive then matchProduction s below place production
  else
    match (← get).found[key place r]? with
    | some (found, behind) =>
      Parse.goTo behind
      return found
    | none =>
      if production.recursive then grow below r place none (s.tokens.list.size + 1)
      else
        let found ← matchProduction s below place production
        keep place r found
        return found

/-- Matches an item that has a depth of its own. -/
def matchDeep (s : Source) (below : Below) (i : Item) : Parse (Option Tree) := do
  let place ← Parse.place
  let line := lineAhead s place
  let bound := s.tokens.list.size + 1
  match i with
  | .rule r => matchRule s below r
  | .grown r => matchFirst s below place r.production.alternatives
  | .group alternatives => matchFirst s below place alternatives
  | .many i => return some (series line (← repeatItem (matchItem s below i) #[] bound))
  | .some i =>
    let found ← repeatItem (matchItem s below i) #[] bound
    return if found.isEmpty then none else some (series line found)
  | .separated separator i =>
    match ← matchItem s below i with
    | some first =>
      match ← below (.further separator i) with
      | some rest => return some (.node .series line (first :: rest.parts))
      | none => return none
    | none => return none
  | .further separator i =>
    let found ← repeatItem (do
      match ← matchItem s below separator with
      | some _ => matchItem s below i
      | none => return none) #[] bound
    return some (series line found)
  | _ => return none

/-- Matches an item, with a depth that is left. -/
def run (s : Source) : Nat → Item → Parse (Option Tree)
  | 0, _ => throw .tooDeep
  | depth + 1, i => matchDeep s (run s depth) i

end Derivation

end NetPlan.Script
