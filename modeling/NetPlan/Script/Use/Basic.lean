import NetPlan.Script.Fold

/-!
# Uses

A tree that is well formed can still be of no use where it stands: an `await` outside of an
asynchronous function, a value behind a star that is no part of a row, a `break` in no loop. To find
that out the tree is checked part by part, in the order in which its parts are run, with a
**setting**: what kind of code the place belongs to, the line, the blocks around it from the inside
on, and what is done with the value there.

What is taken care of when a block is left is checked again wherever the block is left early.
-/

namespace NetPlan.Script

/-- The kinds of code. -/
inductive CodeSort where
  | script
  | klass
  | function
  | asyncFunction
  | lambda
  | comprehension
deriving DecidableEq, Repr

/-- What is done with what a tree stands for. -/
inductive Role where
  | load
  | store
  | delete
deriving DecidableEq, Repr

/-- What has been found: the doubts, last one first, and the names that the pattern at hand has
captured. -/
structure Findings where
  doubts : List Doubt := []
  captured : List String := []

/-- A check, which ends at the first flaw. -/
abbrev Check := EStateM PlacedFlaw Findings

/-- A block around a place. -/
inductive Block where
  | loop
  /-- The handlers of a group. -/
  | group
  /-- A block with a closing one, which is checked again if the block is left early, with a value
  or without one. -/
  | closed (again : Bool → Check Unit)
  | other

/-- Where a tree stands. -/
structure Setting where
  code : CodeSort := .script
  line : Nat := 0
  blocks : List Block := []
  /-- Whether the code waits for something. -/
  waits : Bool := false
  /-- Whether the code yields values. -/
  yields : Bool := false
  role : Role := .load
  /-- Whether a star may stand here. -/
  starry : Bool := false
  /-- Whether a pattern may match everything here. -/
  mayMatchAll : Bool := true

/-- How a tree is used: the check of it, and whether the code that it belongs to waits or yields
values in it. -/
structure Use where
  check : Setting → Check Unit
  waits : Bool := false
  yields : Bool := false

/-- A tree with its uses. -/
abbrev Used := Noted Use

namespace Used

/-- Whether the code that some trees belong to waits in one of them. -/
def waitAny (ps : List Used) : Bool :=
  ps.any (·.note.waits)

/-- Whether the code that some trees belong to yields values in one of them. -/
def yieldAny (ps : List Used) : Bool :=
  ps.any (·.note.yields)

end Used

/-- Checks a tree in a setting. -/
def Noted.check (p : Used) (s : Setting) : Check Unit :=
  p.note.check s

/-- Checks trees one after another. -/
def Used.checkAll (ps : List Used) (s : Setting) : Check Unit :=
  ps.forM (Noted.check · s)

namespace Setting

/-- Ends a check at a flaw. -/
def complain {α : Type} (s : Setting) (flaw : UseFlaw) : Check α :=
  throw { flaw := .use flaw, line := s.line }

/-- The setting of a value that a node on a line uses. -/
def value (s : Setting) (line : Nat) : Setting :=
  { s with line, role := .load, starry := false }

/-- The setting of a place that a node stores to. -/
def target (s : Setting) (line : Nat) : Setting :=
  { s with line, role := .store, starry := false }

/-- The most blocks that may lie within each other. -/
def maxBlocks : Nat := 20

/-- The setting within a further block. -/
def within (s : Setting) (b : Block) : Check Setting :=
  if maxBlocks ≤ s.blocks.length then s.complain .deepBlocks
  else return { s with blocks := b :: s.blocks }

/-- The name that is reserved for a flag. -/
def reservedName : String := "__debug__"

/-- The setting on another line. -/
def onLine (s : Setting) (line : Nat) : Setting :=
  { s with line }

/-- Turns down a name that is reserved. -/
def storeName (s : Setting) (name : String) : Check Unit :=
  if name = reservedName then s.complain (.reservedTarget false) else return

end Setting

/-- Adds a doubt. -/
def Check.doubt (d : Doubt) : Check Unit :=
  modify fun f => { f with doubts := d :: f.doubts }

end NetPlan.Script
