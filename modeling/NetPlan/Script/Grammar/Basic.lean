import NetPlan.Script.Grammar.Rule
import NetPlan.Script.Tree

/-!
# Grammars

A rule has **alternatives**, of which the first one that matches counts, and an alternative has
**items** that have to match one after another. What an alternative comes to is made of what its
items have come to: a tree, a flaw, or a refusal, which ends the rule without a tree.

An alternative for a mistake is tried only when a script has not been matched without such.
-/

namespace NetPlan.Script

/-- What an alternative that has matched comes to. A flaw may have a line. -/
inductive Outcome where
  | tree (t : Tree)
  | refusal
  | flaw (f : FormFlaw) (line? : Option Nat)

/-- How the outcome of an alternative is made: of the literals that it consists of, or of its line
and what its items have come to. -/
inductive Build where
  | literals
  | by (make : Nat → Array Tree → Outcome)
  /-- If brackets are open behind the alternative; else it is refused. -/
  | inBrackets (make : Array Tree → Outcome)

/-- An alternative over some items. -/
structure AlternativeOf (Item : Type) where
  items : List Item
  build : Build
  forMistakes : Bool := false

/-- What has to match at a place. -/
inductive Item where
  | rule (r : Rule)
  /-- A reserved word or a sign. -/
  | sign (text : String)
  /-- A sign without which there is a flaw. -/
  | forced (text : String)
  /-- A word that is a name elsewhere. -/
  | soft (text : String)
  /-- A name that such a word starts with, whole or not. -/
  | anySoft
  | name
  | number
  | literal
  | newline
  | indent
  | dedent
  | finish
  | group (alternatives : List (AlternativeOf Item))
  | maybe (i : Item)
  /-- An item any number of times. -/
  | many (i : Item)
  /-- An item once or more. -/
  | some (i : Item)
  /-- An item once or more, with separators between. -/
  | separated (separator i : Item)
  /-- Further items of such a row, each behind a separator. -/
  | further (separator i : Item)
  | ahead (i : Item)
  | notAhead (i : Item)
  /-- Nothing, but the next token is asked for. -/
  | peek
  /-- Behind it no other alternative counts. -/
  | commit
  /-- A tree of a recursive rule that starts with one that is known. -/
  | grown (r : Rule)

/-- An alternative of a rule. -/
abbrev Alternative := AlternativeOf Item

/-- What a rule stands for. -/
structure Production where
  alternatives : List Alternative
  /-- Whether it is kept what the rule comes to at a place. -/
  kept : Bool := false
  /-- Whether the rule can start with itself. -/
  recursive : Bool := false
  /-- Whether rules for mistakes are left out below it. -/
  sheltered : Bool := false

instance : Coe String Item := ⟨Item.sign⟩
instance : Coe StatementRule Item := ⟨fun r => .rule (.statement r)⟩
instance : Coe ExpressionRule Item := ⟨fun r => .rule (.expression r)⟩
instance : Coe PatternRule Item := ⟨fun r => .rule (.pattern r)⟩

/-! ### Outcomes -/

namespace Build

/-- What an item has come to. -/
def get (v : Array Tree) (i : Nat) : Tree := v[i]?.getD Tree.absent

/-- The tree of one item. -/
def pick (i : Nat) : Build := .by fun _ v => .tree (get v i)

/-- A node with a label whose parts are the trees of some items. -/
def make (label : Label) (places : List Nat) : Build :=
  .by fun line v => .tree (.node label line (places.map (get v)))

/-- A node with a label whose parts are what the trees of some items stand for. -/
def collect (label : Label) (places : List Nat) : Build :=
  .by fun line v => .tree (.node label line (places.flatMap fun i => (get v i).spread))

/-- A node whose label depends on the items. -/
def makeBy (label : Array Tree → Label) (places : List Nat) : Build :=
  .by fun line v => .tree (.node (label v) line (places.map (get v)))

/-- The text of a token. -/
def text (v : Array Tree) (i : Nat) : String := (get v i).text

/-- A flaw on the line of an item. -/
def flawAt (i : Nat) (f : FormFlaw) : Build :=
  .by fun _ v => .flaw f (some (get v i).line)

/-- A flaw without a line of its own. -/
def flaw (f : FormFlaw) : Build := .by fun _ _ => .flaw f none

/-- A flaw on the line of an item about the sort of expression that it is. -/
def flawAbout (i : Nat) (f : String → FormFlaw) : Build :=
  .by fun _ v => .flaw (f (get v i).what) (some (get v i).line)

/-- A flaw about a block that something on the line of an item wants. -/
def missingBlock (what : String) (i : Nat) : Build :=
  .by fun _ v => .flaw (.missingBlockAfter what (get v i).line) none

end Build

/-! ### Alternatives -/

namespace Grammar

/-- An alternative. -/
def alt (items : List Item) (build : Build) : Alternative := ⟨items, build, false⟩

/-- An alternative of one item. -/
def only (i : Item) : Alternative := ⟨[i], .pick 0, false⟩

/-- An alternative that is a mistake. -/
def mistake (r : MistakeRule) : Alternative := ⟨[.rule (.mistake r)], .pick 0, true⟩

/-- One of some items. -/
def oneOf (items : List Item) : Item := .group (items.map only)

/-- Items one after another, for the tree of one of them. -/
def row (items : List Item) (i : Nat) : Item := .group [⟨items, .pick i, false⟩]

end Grammar

end NetPlan.Script
