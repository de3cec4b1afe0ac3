import NetPlan.Script.Numeral
import NetPlan.Text.Letter
import NetPlan.Text.Printable

/-!
# Cutting a script

A script is cut into tokens from its start. Spaces stand between tokens, and a comment takes the
rest of its line. A line ends with a token of its own, unless a bracket is open or there is nothing
on the line. Lines that start further in than the one before are **indented**: the widths of the
margins around a line are kept, and a margin that grows or shrinks gives tokens too. A width is
taken twice, with tabs that fill up to eight and with tabs of one, and both have to agree on which
of two margins is the wider one.

A literal stands in single or double quotes, one or three of them; a backslash takes the next
character with it. A literal in single quotes of either sort ends on its line. Outside literals a
backslash takes the end of its line away.

A cut ends with a token for the end of the script, or **stops** at what cannot be cut.
-/

namespace NetPlan.Script

/-- An open bracket and its line. -/
structure Bracket where
  opening : Char
  line : Nat
deriving DecidableEq, Repr

/-- Where a cut stops: the flaw, its line, and the brackets that are open there. Some flaws are
**decisive**: they outweigh what is found before them. -/
structure CutStop where
  flaw : TokenFlaw
  line : Nat
  brackets : List Bracket
  decisive : Bool
deriving DecidableEq, Repr

/-- A width of a margin, with wide tabs and with narrow ones. -/
structure Margin where
  wide : Nat := 0
  narrow : Nat := 0
deriving DecidableEq, Repr

/-- How far a script has been cut. -/
structure Cutting where
  rest : List Char
  line : Nat := 1
  atLineStart : Bool := true
  /-- The open brackets, innermost first. -/
  brackets : List Bracket := []
  /-- The margins around the line, innermost first, without the empty one. -/
  margins : List Margin := []
  /-- Tokens for margins that are still to come. -/
  growing : Bool := false
  shrinking : Nat := 0
deriving DecidableEq, Repr

namespace Cutting

/-- The most margins that may be around a line. -/
def maxMargins : Nat := 99

/-- How far the tabs of a margin reach. -/
def tabWidth : Nat := 8

/-- The line behind the end of a line, which is another one if anything follows. -/
def lineBehind (line : Nat) (rest : List Char) : Nat :=
  if rest.isEmpty then line else line + 1

/-- A stop at a flaw that outweighs others. -/
def decisive (c : Cutting) (flaw : TokenFlaw) (line : Nat) : CutStop :=
  ⟨flaw, line, c.brackets, true⟩

/-- A stop at a flaw that does not. -/
def indecisive (c : Cutting) (flaw : TokenFlaw) (line : Nat) : CutStop :=
  ⟨flaw, line, c.brackets, false⟩

/-- The stop at the end of a script that is not finished. A bracket that is open then was never
closed. -/
def atEnd (c : Cutting) : CutStop :=
  match c.brackets with
  | b :: _ => c.indecisive (.openBracket b.opening) b.line
  | [] => c.indecisive .unfinished c.line

/-- A token that starts on the line and the brackets that have been reached. -/
def token (c : Cutting) (sort : TokenSort) (text : String) : Token :=
  { sort, text, line := c.line, depth := c.brackets.length }

/-! ### Margins -/

/-- The margin of a line: where it ends, and its widths. A backslash in it goes on with the next
line, and then the first one that does, if there is a margin in front of it, tells the width. -/
def readMargin (c : Cutting) (line held : Nat) (m : Margin) :
    List Char → Except CutStop (List Char × Nat × Margin)
  | ' ' :: rest => readMargin c line held ⟨m.wide + 1, m.narrow + 1⟩ rest
  | '\t' :: rest =>
    readMargin c line held ⟨(m.wide / tabWidth + 1) * tabWidth, m.narrow + 1⟩ rest
  | '\x0c' :: rest => readMargin c line held ⟨0, 0⟩ rest
  | '\\' :: '\n' :: rest =>
    if rest.isEmpty then .error { c with line }.atEnd
    else readMargin c (line + 1) (if held = 0 then m.wide else held) m rest
  | '\\' :: _ => .error (c.indecisive .strayBackslash line)
  | rest => .ok (rest, line, if held = 0 then m else ⟨held, held⟩)

/-- A cutting at the first token of a line with a margin. -/
def setMargin (c : Cutting) (m : Margin) : Except CutStop Cutting :=
  let around := c.margins.head?.getD {}
  if m.wide = around.wide then
    if m.narrow = around.narrow then .ok c else .error (c.indecisive .tabbedMargin c.line)
  else if around.wide < m.wide then
    if maxMargins ≤ c.margins.length then .error (c.indecisive .deepMargin c.line)
    else if m.narrow ≤ around.narrow then .error (c.indecisive .tabbedMargin c.line)
    else .ok { c with margins := m :: c.margins, growing := true }
  else
    let kept := c.margins.dropWhile fun k => m.wide < k.wide
    let around := kept.head?.getD {}
    if m.wide ≠ around.wide then .error (c.indecisive .oddMargin c.line)
    else if m.narrow ≠ around.narrow then .error (c.indecisive .tabbedMargin c.line)
    else .ok { c with margins := kept, shrinking := c.margins.length - kept.length }

/-- A cutting behind the margin of a line. A line with nothing on it has no margin, nor has one
between brackets. -/
def startLine (c : Cutting) : Except CutStop Cutting := do
  let (rest, line, m) ← readMargin c c.line 0 {} c.rest
  let c := { c with rest, line, atLineStart := false }
  if rest.head? = some '#' || rest.head? = some '\n' then return { c with atLineStart := true }
  else if c.brackets.isEmpty then c.setMargin m
  else return c

/-! ### Literals -/

/-- A literal that has been read: what is left, and the line that has been reached. -/
structure Body where
  /-- What has been read, last character first. -/
  read : List Char := []
  rest : List Char
  line : Nat

/-- Reads a literal in single quotes up to the closing one; the last line if there is none. -/
def readShort (quote : Char) (read : List Char) (line : Nat) : List Char → Except Nat Body
  | [] => .error line
  | '\n' :: _ => .error line
  | ['\\'] => .error line
  | '\\' :: '\n' :: rest => readShort quote ('\n' :: '\\' :: read) (lineBehind line rest) rest
  | '\\' :: c :: rest => readShort quote (c :: '\\' :: read) line rest
  | c :: rest =>
    if c = quote then .ok ⟨c :: read, rest, line⟩ else readShort quote (c :: read) line rest

/-- Reads a literal in triple quotes up to the closing ones, behind some quotes; the last line if
there are none. -/
def readLong (quote : Char) (read : List Char) (line quotes : Nat) : List Char → Except Nat Body
  | [] => .error line
  | ['\\'] => .error line
  | '\\' :: '\n' :: rest => readLong quote ('\n' :: '\\' :: read) (lineBehind line rest) 0 rest
  | '\\' :: c :: rest => readLong quote (c :: '\\' :: read) line 0 rest
  | '\n' :: rest => readLong quote ('\n' :: read) (lineBehind line rest) 0 rest
  | c :: rest =>
    if c = quote then
      if quotes = 2 then .ok ⟨c :: read, rest, line⟩
      else readLong quote (c :: read) line (quotes + 1) rest
    else readLong quote (c :: read) line 0 rest

/-- Cuts a literal behind its mark, at its first quote. -/
def cutLiteral (c : Cutting) (mark : List Char) (quote : Char) (rest : List Char) :
    Except CutStop (Token × Cutting) := do
  let lead := quote :: mark.reverse
  let body ← match rest with
    | a :: b :: more =>
      if a = quote && b = quote then
        match readLong quote (quote :: quote :: lead) c.line 0 more with
        | .ok body => pure body
        | .error last => throw (c.decisive (.openLongLiteral last) c.line)
      else short c lead
    | _ => short c lead
  return (c.token .literal (String.ofList body.read.reverse),
    { c with rest := body.rest, line := body.line })
where
  /-- The literal in single quotes. -/
  short (c : Cutting) (lead : List Char) : Except CutStop Body :=
    match readShort quote lead c.line rest with
    | .ok body => .ok body
    | .error last => .error (c.decisive (.openLiteral last) c.line)

/-! ### Words, numbers and signs -/

/-- The character that keeps a text from being a word. -/
def badWordChar? : List Char → Option Char
  | [] => none
  | c :: rest =>
    if Text.isWordStart c then rest.find? fun d => !Text.isWordPart d else some c

/-- The stop at a character that has no place outside literals. -/
def badCharacter (c : Cutting) (bad : Char) : CutStop :=
  c.decisive (.badCharacter bad (Text.isPrintable bad)) c.line

/-- Cuts a word, or the literal whose mark it is. -/
def cutWord (c : Cutting) : Except CutStop (Token × Cutting) :=
  let word := c.rest.takeWhile isWordLike
  let rest := c.rest.dropWhile isWordLike
  match rest with
  | quote :: more =>
    if (quote = '"' || quote = '\'') && marks.contains (String.ofList (word.map Char.toLower)) then
      cutLiteral c word quote more
    else name word rest
  | [] => name word rest
where
  /-- The word as a name or a reserved word. -/
  name (word rest : List Char) : Except CutStop (Token × Cutting) :=
    match badWordChar? word with
    | some bad => .error (c.badCharacter bad)
    | none =>
      let text := String.ofList word
      .ok (c.token (if reservedWords.contains text then .reserved else .name) text,
        { c with rest })

/-- Whether a character can stand in a number. -/
def isNumberChar (c : Char) : Bool :=
  isWordLike c || c = '.' || c = '+' || c = '-'

/-- Cuts a number. -/
def cutNumber (c : Cutting) : Except CutStop (Token × Cutting) :=
  let window := c.rest.takeWhile isNumberChar
  match Numeral.cut window with
  | .error flaw => .error (c.decisive flaw c.line)
  | .ok stop =>
    let size := window.length - stop.rest.length
    let t := c.token .number (String.ofList (window.take size))
    .ok ({ t with doubt? := stop.doubt? }, { c with rest := c.rest.drop size })

/-- The bracket that closes what a bracket opens. -/
def closing (opening : Char) : Char :=
  if opening = '(' then ')' else if opening = '[' then ']' else '\x7d'

/-- The brackets that are open behind a sign of one character. -/
def bracketsBehind (c : Cutting) (sign : Char) : Except CutStop (List Bracket) :=
  if sign = '(' || sign = '[' || sign = '\x7b' then
    if maxBrackets ≤ c.brackets.length then .error (c.decisive .manyBrackets c.line)
    else .ok (⟨sign, c.line⟩ :: c.brackets)
  else if sign = ')' || sign = ']' || sign = '\x7d' then
    match c.brackets with
    | [] => .error (c.decisive (.closedBracket sign) c.line)
    | b :: more =>
      if sign = closing b.opening then .ok more
      else
        let line? := if b.line = c.line then none else some b.line
        .error (c.decisive (.mismatch sign b.opening line?) c.line)
  else .ok c.brackets

/-- Cuts a sign of three characters, of two, or of one. -/
def cutSign (c : Cutting) : Except CutStop (Token × Cutting) :=
  let three := String.ofList (c.rest.take 3)
  let two := String.ofList (c.rest.take 2)
  if tripleSigns.contains three then .ok (c.token .sign three, { c with rest := c.rest.drop 3 })
  else if pairSigns.contains two then .ok (c.token .sign two, { c with rest := c.rest.drop 2 })
  else
    match c.rest with
    | [] => .error c.atEnd
    | sign :: rest =>
      match c.bracketsBehind sign with
      | .error stop => .error stop
      | .ok brackets =>
        if Text.isPrintable sign then
          let c := { c with rest, brackets }
          .ok (c.token .sign (String.singleton sign), c)
        else .error (c.badCharacter sign)

/-- Whether a number starts with a point. -/
def startsFraction : List Char → Bool
  | '.' :: d :: _ => d.isDigit
  | _ => false

/-- Cuts the token that a text starts with. -/
def cutToken (c : Cutting) : Except CutStop (Token × Cutting) :=
  match c.rest with
  | [] => .error c.atEnd
  | first :: rest =>
    if first.isDigit || startsFraction c.rest then c.cutNumber
    else if isWordLike first then c.cutWord
    else if first = '"' || first = '\'' then cutLiteral c [] first rest
    else c.cutSign

/-! ### The tokens of a script -/

/-- A step of a cut: a token, the end of the script, or a cutting that is nearer to one. -/
inductive Step where
  | token (t : Token) (c : Cutting)
  | finish (t : Token)
  | onward (c : Cutting)

/-- A cutting behind the end of a line. -/
def nextLine (c : Cutting) (rest : List Char) : Cutting :=
  { c with rest, line := lineBehind c.line rest, atLineStart := true }

/-- A step on a line whose margin has been read. -/
def stepInLine (c : Cutting) : Except CutStop Step := do
  let c := { c with rest := c.rest.dropWhile isSpace }
  match c.rest with
  | [] => if c.brackets.isEmpty then return .finish (c.token .finish "") else throw c.atEnd
  | '#' :: rest => return .onward { c with rest := rest.dropWhile (· ≠ '\n') }
  | '\n' :: rest =>
    if c.brackets.isEmpty then return .token (c.token .newline "") (c.nextLine rest)
    else return .onward (c.nextLine rest)
  | '\\' :: '\n' :: rest =>
    if rest.isEmpty then throw c.atEnd
    else return .onward { c with rest, line := c.line + 1 }
  | '\\' :: _ => throw (c.indecisive .strayBackslash c.line)
  | _ =>
    let (t, c) ← c.cutToken
    return .token t c

/-- A step of a cut. -/
def step (c : Cutting) : Except CutStop Step := do
  if c.atLineStart then
    let c ← c.startLine
    if c.atLineStart then
      let rest := c.rest.dropWhile (· ≠ '\n')
      match rest with
      | [] => return .onward { c with rest, atLineStart := false }
      | _ :: more => return .onward (c.nextLine more)
    else return .onward c
  else if c.growing then return .token (c.token .indent "") { c with growing := false }
  else
    match c.shrinking with
    | more + 1 => return .token (c.token .dedent "") { c with shrinking := more }
    | 0 => c.stepInLine

end Cutting

/-- The tokens of a script, and where the cut stops if it does not reach the end. -/
structure Tokens where
  list : Array Token
  stop? : Option CutStop := none

namespace Tokens

/-- The tokens of a cutting, behind others, with a bound for the steps. -/
def ofCutting (found : Array Token) (c : Cutting) : Nat → Tokens
  | 0 => ⟨found, some c.atEnd⟩
  | bound + 1 =>
    match c.step with
    | .error stop => ⟨found, some stop⟩
    | .ok (.finish t) => ⟨found.push t, none⟩
    | .ok (.token t c) => ofCutting (found.push t) c bound
    | .ok (.onward c) => ofCutting found c bound

/-- The tokens of a text whose first line has a number. Each step takes a character, starts a line
or ends a margin, and each margin takes a character too. -/
def ofText (line : Nat) (text : List Char) : Tokens :=
  ofCutting #[] { rest := text, line } (4 * text.length + 4)

end Tokens

end NetPlan.Script
