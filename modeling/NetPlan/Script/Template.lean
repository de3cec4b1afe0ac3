import NetPlan.Script.Literal

/-!
# Templates

A **template** is a literal with **fields**, expressions in braces whose values are to be filled in.
A doubled brace stands for itself. Behind the expression of a field there may be an equal sign, a
conversion behind an exclamation mark, and a format behind a colon; the format is a template itself,
and its fields may have formats without fields only.

The expression of a field is found without a look at what it says: it ends at the first of these
signs that is in no bracket or quotes. It is read in brackets of its own.
-/

namespace NetPlan.Script.Template

/-! ### The text between fields -/

/-- Where a cut of text is: in an escape, behind the letter of one by name, or in such a name. -/
inductive TextMode where
  | plain
  | escaped
  | naming
  | named
deriving DecidableEq, Repr

/-- A piece of text in front of a field or of the end. -/
structure Piece where
  text : List Char
  rest : List Char
  /-- Whether it ends with a doubled brace, so that more text follows. -/
  doubled : Bool := false
  /-- Whether a field starts behind a backslash. -/
  escapedField : Bool := false

/-- Cuts the text that a template starts with, given what has been read of it, last character
first. -/
def cutText (raw : Bool) (level : Nat) (mode : TextMode) (read : List Char) :
    List Char → Except TemplateFlaw Piece
  | [] => .ok ⟨read.reverse, [], false, false⟩
  | c :: rest =>
    match mode with
    | .naming => cutText raw level (if c = '\x7b' then .named else .plain) (c :: read) rest
    | .named => cutText raw level (if c = '\x7d' then .plain else .named) (c :: read) rest
    | .plain | .escaped =>
      if mode = .plain && !raw && c = '\\' then cutText raw level .escaped (c :: read) rest
      else if mode = .escaped && c = 'N' then cutText raw level .naming (c :: read) rest
      else if c = '\x7b' || c = '\x7d' then
        let escapedField := mode = .escaped && c = '\x7b'
        if level = 0 && rest.head? = some c then
          .ok ⟨(c :: read).reverse, rest.tail, true, escapedField⟩
        else if level = 0 && c = '\x7d' then .error .closedField
        else .ok ⟨read.reverse, c :: rest, false, escapedField⟩
      else cutText raw level .plain (c :: read) rest

/-! ### The expression of a field -/

/-- Where a cut of an expression is: in which quotes, one or three of them, if in any, and in which
brackets, innermost first. -/
structure FieldMode where
  quote? : Option (Char × Bool) := none
  brackets : List Char := []
deriving DecidableEq, Repr

/-- Whether a text goes on with two of a character. -/
def startsWithPair (c : Char) : List Char → Bool
  | a :: b :: _ => a = c && b = c
  | _ => false

/-- Cuts the expression of a field: what has been read, last character first, and the rest from its
end on. `skip` counts the characters that belong to a sign before them. -/
def cutField (mode : FieldMode) (skip : Nat) (read : List Char) :
    List Char → Except TemplateFlaw (List Char × List Char)
  | [] =>
    match mode.quote?, mode.brackets with
    | some _, _ => .error .openText
    | none, b :: _ => .error (.unmatched b)
    | none, [] => .error .openField
  | c :: rest =>
    match skip with
    | skip + 1 => cutField mode skip (c :: read) rest
    | 0 =>
      if c = '\\' then .error .backslash
      else
        match mode.quote? with
        | some (quote, false) =>
          let mode := if c = quote then { mode with quote? := none } else mode
          cutField mode 0 (c :: read) rest
        | some (quote, true) =>
          if c = quote && startsWithPair quote rest then
            cutField { mode with quote? := none } 2 (c :: read) rest
          else cutField mode 0 (c :: read) rest
        | none =>
          if c = '\'' || c = '"' then
            let long := startsWithPair c rest
            cutField { mode with quote? := some (c, long) } (if long then 2 else 0) (c :: read) rest
          else if c = '(' || c = '[' || c = '\x7b' then
            if maxBrackets ≤ mode.brackets.length then .error .manyBrackets
            else cutField { mode with brackets := c :: mode.brackets } 0 (c :: read) rest
          else if c = '#' then .error .comment
          else if mode.brackets.isEmpty && ['!', ':', '\x7d', '=', '<', '>'].contains c then
            if ['!', '=', '<', '>'].contains c && rest.head? = some '=' then
              cutField mode 1 (c :: read) rest
            else if c = '<' || c = '>' then cutField mode 0 (c :: read) rest
            else .ok (read, c :: rest)
          else if c = ')' || c = ']' || c = '\x7d' then
            match mode.brackets with
            | [] => .error (.unmatched c)
            | b :: more =>
              if c = Cutting.closing b then
                cutField { mode with brackets := more } 0 (c :: read) rest
              else .error (.mismatch c b)
          else cutField mode 0 (c :: read) rest

/-- Whether a character is one of those that an expression may consist of and still be empty. -/
def isFieldBlank (c : Char) : Bool :=
  isSpace c || c = '\n'

/-- The flaw of an empty expression in front of some rest. -/
def emptyFlaw (rest : List Char) : TemplateFlaw :=
  match rest.head? with
  | some c => if c = '\x7d' then .emptyField else .missing c
  | none => .emptyField

/-! ### Reading a template -/

/-- Goes on, or ends the parse at the flaw. -/
def orComplain {α : Type} (s : Source) : Except TemplateFlaw α → Parse α
  | .ok a => return a
  | .error flaw => s.complain (.template flaw)

/-- Reads the expression of a field. -/
def readExpression (s : Source) (text : List Char) (line : Nat) : Parse Tree := do
  let reading := s.readField ('(' :: text ++ [')']) line
  reading.doubts.forM Parse.doubt
  match reading.outcome with
  | .ok t => return t
  | .error halt => throw halt

/-- How far a template has been read. -/
structure Reached where
  rest : List Char
  line : Nat
  /-- The fields, last one first. -/
  fields : List Tree

/-- The line behind some text. -/
def lineBehind (line : Nat) (text : List Char) : Nat :=
  line + text.count '\n'

/-- The conversions of a value. -/
def conversions : List Char :=
  ['s', 'r', 'a']

/-- Whether a character may stand behind the equal sign of a field. -/
def isGap (c : Char) : Bool :=
  c = ' ' || ('\t' ≤ c && c ≤ '\r')

/-- A field behind its expression without the equal sign, if there is one. -/
def skipEqual (rest : List Char) : List Char :=
  match rest with
  | '=' :: more => more.dropWhile isGap
  | _ => rest

/-- A field behind its expression and equal sign up to its format: the conversion. -/
def readConversion (s : Source) (rest : List Char) : Parse (List Char) :=
  match rest with
  | '!' :: c :: more =>
    if conversions.contains c then return more else s.complain (.template .conversion)
  | '!' :: [] => s.complain (.template .openField)
  | _ => return rest

/-- Reads a template, or the format of a field up to the brace that ends the field. Each field takes
its braces, so that the length of the text bounds their number. -/
def read (s : Source) (raw : Bool) (start : Nat) (level : Nat) (r : Reached) : Nat → Parse Reached
  | 0 => return r
  | bound + 1 => do
    let piece ← orComplain s (cutText raw level .plain [] r.rest)
    if piece.escapedField then Parse.doubt (.escape ['\\', '\x7b'])
    let _ ← decodeText s raw piece.text
    let line := lineBehind r.line piece.text
    if piece.doubled then
      read s raw start level { r with rest := piece.rest, line } bound
    else
      match piece.rest with
      | '\x7b' :: rest =>
        if 2 ≤ level then s.complain (.template .deepField)
        let (expression, rest) ← orComplain s (cutField {} 0 [] rest)
        if expression.all isFieldBlank then s.complain (.template (emptyFlaw rest))
        let value ← readExpression s expression.reverse line
        let behind := skipEqual rest
        let line := lineBehind line (expression ++ rest.take (rest.length - behind.length))
        let rest ← readConversion s behind
        let inner ← match rest with
          | ':' :: format =>
            if format.isEmpty then s.complain (.template .openField)
            else read s raw start (level + 1) ⟨format, line, []⟩ bound
          | _ => pure ⟨rest, line, []⟩
        match inner.rest with
        | '\x7d' :: rest =>
          let format := match inner.fields with
            | [] => Tree.absent
            | fields => .node .template start fields.reverse
          let field := .node .field start [value, format]
          read s raw start level ⟨rest, inner.line, field :: r.fields⟩ bound
        | _ => s.complain (.template .openField)
      | _ => return { r with rest := piece.rest, line }

end Template

/-! ### Literals that follow each other -/

namespace Literal

/-- What has been read of literals that follow each other. -/
structure Joined where
  text : List Char := []
  size : Nat := 0
  fields : List Tree := []
  isTemplate : Bool := false

/-- The literals with a further one, all of them of one sort. -/
def Joined.add (s : Source) (start : Nat) (bytes : Bool) (j : Joined) (l : Literal) :
    Parse Joined := do
  let read ← if l.isBytes then pure { j with size := j.size + (← decodeBytes s l) }
    else if l.isTemplate then pure j
    else pure { j with text := j.text ++ (← decodeText s l.isRaw l.body) }
  if l.isBytes ≠ bytes then s.complain (.literal .mixture)
  if l.isTemplate then
    let r ← Template.read s l.isRaw start 0 ⟨l.body, l.line, []⟩ (l.body.length + 1)
    return { read with fields := read.fields ++ r.fields.reverse, isTemplate := true }
  else return read

/-- The value of literals that follow each other. -/
def join (s : Source) (start : Nat) (ls : List Literal) : Parse Tree := do
  let bytes := ls.head?.any isBytes
  let j ← ls.foldlM (Joined.add s start bytes) {}
  if j.isTemplate then return .node .template start j.fields
  else if bytes then return .node (.constant (.bytes j.size)) start []
  else return .node (.constant (.text j.text)) start []

end Literal

end NetPlan.Script
