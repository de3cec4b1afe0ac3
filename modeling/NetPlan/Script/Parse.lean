import Std.Data.HashMap
import NetPlan.Script.Cutting
import NetPlan.Script.Tree

/-!
# Parses

A **parse** goes over the tokens of a script and makes trees of them. It holds its place, how many
tokens it has asked for, what it has found out about places before, and the doubts on its way. It
ends early at a flaw, where the tokens stop, or when it goes too deep.

A flaw that has no line of its own stands on the line of the last token that has been asked for.

The fields of a template are scripts of their own, so a source says how they are read.
-/

namespace NetPlan.Script

/-- Why a parse ends early. -/
inductive Halt where
  | flaw (f : PlacedFlaw)
  | stop (s : CutStop)
  | tooDeep
deriving DecidableEq, Repr

/-- What comes of a field: the doubts about it, and its tree or what it halts at. -/
structure FieldReading where
  doubts : List Doubt := []
  outcome : Except Halt Tree

/-- What is parsed: tokens, whether they are those of a field, and how the fields in them are read,
given their text and their line. -/
structure Source where
  tokens : Tokens
  inField : Bool := false
  readField : List Char → Nat → FieldReading

/-- How far a parse has come. -/
structure Progress where
  place : Nat := 0
  asked : Nat := 0
  /-- What rules have come to at places, and the places behind that. -/
  found : Std.HashMap Nat (Option Tree × Nat) := {}
  /-- The doubts, last one first. -/
  doubts : List Doubt := []
  /-- Whether rules for common mistakes are tried too. -/
  searching : Bool := false

/-- A parse. -/
abbrev Parse := EStateM Halt Progress

namespace Parse

/-- Adds a doubt. -/
def doubt (d : Doubt) : Parse Unit :=
  modify fun p => { p with doubts := d :: p.doubts }

/-- The place of a parse. -/
def place : Parse Nat := fun p => .ok p.place p

/-- Goes to a place. -/
def goTo (place : Nat) : Parse Unit := fun p => .ok () { p with place }

end Parse

namespace Source

/-- The line of the last token that has been asked for. -/
def lastLine (s : Source) (p : Progress) : Nat :=
  match s.tokens.list[p.asked - 1]? with
  | some t => t.line
  | none => 0

/-- Ends a parse at a flaw on a line. -/
def complainAt {α : Type} (s : Source) (flaw : Flaw) (line : Nat) : Parse α :=
  throw (.flaw ⟨flaw, line, s.inField⟩)

/-- Ends a parse at a flaw that has no line of its own. -/
def complain {α : Type} (s : Source) (flaw : Flaw) : Parse α := do
  s.complainAt flaw (s.lastLine (← get))

/-- The token at the place of a parse. -/
def token (s : Source) : Parse (Option Token) := fun p =>
  match s.tokens.list[p.place]? with
  | some t =>
    if p.place < p.asked then .ok (some t) p
    else
      match t.doubt? with
      | some d => .ok (some t) { p with asked := p.place + 1, doubts := d :: p.doubts }
      | none => .ok (some t) { p with asked := p.place + 1 }
  | none =>
    match s.tokens.stop? with
    | some stop => .error (.stop stop) p
    | none => .ok none p

end Source

end NetPlan.Script
