import NetPlan.Script.Derivation

/-!
# The form of a script

A script is derived from the grammar in two passes. The first one knows no mistakes; if it matches
nothing, the second one looks for mistakes that have a wording of their own. If there are none, the
last token that the first pass has asked for is out of place.

A flaw of form may be the consequence of one of tokens further on: if the rest of the script cannot
be cut, that outweighs the flaw, and so does a bracket on an earlier line that is never closed.
-/

namespace NetPlan.Script

namespace Source

/-- One pass over the tokens. -/
def pass (s : Source) (goal : Rule) (p : Progress) : EStateM.Result Halt Progress (Option Tree) :=
  (Derivation.run s Derivation.maxDepth (.rule goal)).run p

/-- The flaw of a bracket that is open where the tokens stop, if it is on a line before a given
one. -/
def openBracket? (s : Source) (stop : CutStop) (line : Nat) : Option PlacedFlaw :=
  match stop.brackets with
  | b :: _ =>
    if b.line < line then some ⟨.token (.openBracket b.opening), b.line, s.inField⟩ else none
  | [] => none

/-- The flaw where the tokens stop. -/
def stopFlaw (s : Source) (stop : CutStop) : PlacedFlaw :=
  if stop.decisive then ⟨.token stop.flaw, stop.line, false⟩
  else (s.openBracket? stop stop.line).getD ⟨.token stop.flaw, stop.line, s.inField⟩

/-- A flaw of form, or the flaw of tokens that outweighs it. -/
def outweighed (s : Source) (f : PlacedFlaw) (p : Progress) : PlacedFlaw :=
  match s.tokens.stop? with
  | none => f
  | some stop =>
    if stop.decisive then s.stopFlaw stop
    else (s.openBracket? stop (s.lastLine p)).getD f

/-- The doubts of a parse. -/
def doubtsOf (p : Progress) : List Doubt := p.doubts.reverse

/-- The doubts about the tokens that have not been asked for. -/
def laterDoubts (s : Source) (p : Progress) : List Doubt :=
  (s.tokens.list.toList.drop p.asked).filterMap (·.doubt?)

/-- What comes of a parse that has ended early. -/
def halted (s : Source) (halt : Halt) (p : Progress) : FieldReading :=
  match halt with
  | .flaw f => ⟨doubtsOf p ++ s.laterDoubts p, .error (.flaw (s.outweighed f p))⟩
  | .stop stop => ⟨doubtsOf p, .error (.flaw (s.stopFlaw stop))⟩
  | .tooDeep => ⟨doubtsOf p, .error .tooDeep⟩

/-- What comes of two passes that match nothing. -/
def unmatched (s : Source) (p q : Progress) : FieldReading :=
  match s.tokens.list[p.asked - 1]? with
  | some t =>
    match t.sort with
    | .indent => ⟨doubtsOf q, .error (.flaw ⟨.form .unexpectedIndent, s.lastLine q, s.inField⟩)⟩
    | .dedent => ⟨doubtsOf q, .error (.flaw ⟨.form .unexpectedUnindent, s.lastLine q, s.inField⟩)⟩
    | _ => s.halted (.flaw ⟨.form .invalid, t.line, s.inField⟩) q
  | none => ⟨doubtsOf q, .error (.flaw ⟨.form .invalid, 0, s.inField⟩)⟩

/-- The tree of a rule that matches all tokens. -/
def derive (s : Source) (goal : Rule) : FieldReading :=
  match s.pass goal {} with
  | .ok (some t) p => ⟨doubtsOf p, .ok t⟩
  | .ok none p =>
    match s.pass goal { asked := p.asked, doubts := p.doubts, searching := true } with
    | .ok _ q => s.unmatched p q
    | .error halt q => s.halted halt q
  | .error halt p => s.halted halt p

/-- A text with an end of its last line. -/
def endLine (text : List Char) : List Char :=
  if text.getLast? = some '\n' then text else text ++ ['\n']

/-- The source of a text. -/
def ofText (inField : Bool) (readField : List Char → Nat → FieldReading) (text : List Char)
    (line : Nat) : Source :=
  { tokens := Tokens.ofText line (endLine text), inField, readField }

end Source

/-- Reads a field of a template that may have others below it, up to a depth. -/
def readField : Nat → List Char → Nat → FieldReading
  | 0, _, _ => ⟨[], .error .tooDeep⟩
  | depth + 1, text, line =>
    (Source.ofText true (readField depth) text line).derive (.expression .fieldExpression)

/-- Reads the form of a script. A field is shorter than what it is in. -/
def readForm (text : List Char) : FieldReading :=
  (Source.ofText false (readField text.length) text 1).derive (.statement .script)

end NetPlan.Script
