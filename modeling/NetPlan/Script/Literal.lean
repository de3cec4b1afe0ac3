import NetPlan.Decimal.Reading
import NetPlan.Fault
import NetPlan.Script.Parse

/-!
# Literals

The values of numbers and of literals. A number to the base ten may have only so many digits. A
literal is of text or of bytes, and **raw** if backslashes mean nothing in it. In a literal of bytes
an escape has its own rules: only two hexadecimal digits, or octal ones, have a number.
-/

namespace NetPlan.Script

/-! ### Numbers -/

/-- Whether a decimal is nearer to zero than to any other number. -/
def isZeroDecimal (text : List Char) : Bool :=
  match Decimal.unsigned? false text with
  | some (.finite _ significand _) => significand = 0
  | _ => false

/-- The value of a number that ends where its text does. -/
def Constant.ofNumber (text : String) : Except LiteralFlaw Constant :=
  let digits := text.toList.filter (· ≠ '_')
  match digits with
  | '0' :: 'x' :: rest | '0' :: 'X' :: rest => .ok (.whole (digitsValue 16 rest))
  | '0' :: 'o' :: rest | '0' :: 'O' :: rest => .ok (.whole (digitsValue 8 rest))
  | '0' :: 'b' :: rest | '0' :: 'B' :: rest => .ok (.whole (digitsValue 2 rest))
  | _ =>
    if digits.all Char.isDigit then
      if maxDigits < digits.length && digits.head? ≠ some '0' then
        .error (.longNumber digits.length)
      else .ok (.whole (digitsValue 10 digits))
    else
      match digits.getLast? with
      | some 'j' | some 'J' => .ok (.imaginary (isZeroDecimal digits.dropLast))
      | _ => .ok (.real (isZeroDecimal digits))

/-! ### Parts of a literal -/

/-- A literal in its parts. -/
structure Literal where
  /-- The letters in front of it, in lower case. -/
  mark : List Char
  body : List Char
  line : Nat
deriving DecidableEq, Repr

namespace Literal

/-- The literal that a token is. -/
def ofToken (text : String) (line : Nat) : Literal :=
  let cs := text.toList
  let rest := cs.dropWhile Char.isAlpha
  let quotes := match rest with
    | a :: b :: c :: _ :: _ :: _ => if a = b && b = c then 3 else 1
    | _ => 1
  ⟨(cs.takeWhile Char.isAlpha).map Char.toLower, (rest.drop quotes).take
    (rest.length - 2 * quotes), line⟩

def isBytes (l : Literal) : Bool := l.mark.contains 'b'

def isRaw (l : Literal) : Bool := l.mark.contains 'r'

def isTemplate (l : Literal) : Bool := l.mark.contains 'f'

end Literal

/-! ### Text -/

/-- The text that stands for a piece of a literal. -/
def decodeText (s : Source) (raw : Bool) (body : List Char) : Parse (List Char) := do
  if raw || !body.contains '\\' then return body
  match badEscape? 0 0 body with
  | some e => s.complain (.literal (.badEscape e))
  | none =>
    match doubtfulEscape? 0 body with
    | some escape => Parse.doubt (.escape escape)
    | none => pure ()
    return unescape 0 body

/-! ### Bytes -/

/-- What the first escape with a doubt or a flaw is in a literal of bytes. -/
inductive ByteEscape where
  | bad (place : Nat)
  | doubtful (text : List Char)

/-- The first bad escape in a literal of bytes, by its place. -/
def badByteEscape? (place : Nat) : List Char → Option Nat
  | '\\' :: 'x' :: a :: b :: rest =>
    if isHexDigit a && isHexDigit b then badByteEscape? (place + 4) rest else some place
  | '\\' :: 'x' :: _ => some place
  | '\\' :: _ :: rest => badByteEscape? (place + 2) rest
  | _ :: rest => badByteEscape? (place + 1) rest
  | [] => none

/-- The first doubtful escape in a literal of bytes, and how many bytes it stands for. -/
def bytesOf (size : Nat) (doubt? : Option (List Char)) (skip : Nat) :
    List Char → Nat × Option (List Char)
  | [] => (size, doubt?)
  | c :: rest =>
    match skip with
    | skip + 1 => bytesOf size doubt? skip rest
    | 0 =>
      if c ≠ '\\' then bytesOf (size + 1) doubt? 0 rest
      else
        match rest.head? with
        | none => (size + 1, doubt?)
        | some d =>
          if d = 'x' then bytesOf (size + 1) doubt? 3 rest
          else if d = '\n' then bytesOf size doubt? 1 rest
          else
            match if d = 'u' || d = 'U' || d = 'N' then .doubtful 1 else Escape.ofRest rest with
            | .doubtful span =>
              let size := if span = 1 && !isOctalDigit d then size + 2 else size + 1
              bytesOf size (doubt?.or (some (c :: rest.take span))) span rest
            | .good span | .bad span _ => bytesOf (size + 1) doubt? span rest

/-- The number of bytes of a literal. -/
def decodeBytes (s : Source) (l : Literal) : Parse Nat := do
  if l.body.any fun c => 128 ≤ c.toNat then s.complainAt (.literal .wideCharacter) l.line
  if l.isRaw || !l.body.contains '\\' then return l.body.length
  match badByteEscape? 0 l.body with
  | some place => s.complain (.literal (.badByteEscape place))
  | none =>
    let (size, doubt?) := bytesOf 0 none 0 l.body
    match doubt? with
    | some escape => Parse.doubt (.escape escape)
    | none => pure ()
    return size

end NetPlan.Script
