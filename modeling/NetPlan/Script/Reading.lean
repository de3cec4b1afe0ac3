import NetPlan.Script.Form
import NetPlan.Script.Scope
import NetPlan.Script.Use.Statement

/-!
# Reading scripts

A script is **read** in stages: its form, how deep its tree is, the names in its scopes, and the use
of its parts. A script that fails at one stage is not looked at by the next one. The doubts are
those about its form, and behind them those about the use of its parts.
-/

namespace NetPlan.Script

/-- Why a script is refused. -/
inductive Refusal where
  | flaw (f : PlacedFlaw)
  /-- The rules for its form lie too deep within each other. -/
  | deepForm
  /-- Its tree is too deep. -/
  | deepTree
deriving DecidableEq, Repr

/-- What comes of reading a script: the doubts about it, and why it is refused, if it is. -/
structure Reading where
  doubts : List Doubt := []
  refusal? : Option Refusal := none
deriving DecidableEq, Repr

/-- The deepest tree that is taken. -/
def maxTreeDepth : Nat := 2940

/-- Reads the tree of a script. -/
def readTree (t : Tree) : Reading :=
  if maxTreeDepth < t.depth then ⟨[], some .deepTree⟩
  else
    let folded := t.fold
    match badNames? folded with
    | some f => ⟨[], some (.flaw f)⟩
    | none =>
      let (doubts, flaw?) := Use.ofScript folded
      ⟨doubts, flaw?.map .flaw⟩

/-- Reads a script. A null character anywhere is worse than all other flaws. -/
def read (text : List Char) : Reading :=
  if text.contains '\x00' then ⟨[], some (.flaw { flaw := .token .nullCharacter, line := 0 })⟩
  else
    let form := readForm text
    match form.outcome with
    | .ok t =>
      let reading := readTree t
      { reading with doubts := form.doubts ++ reading.doubts }
    | .error (.flaw f) => ⟨form.doubts, some (.flaw f)⟩
    | .error (.stop s) => ⟨form.doubts, some (.flaw { flaw := .token s.flaw, line := s.line })⟩
    | .error .tooDeep => ⟨form.doubts, some .deepForm⟩

end NetPlan.Script
