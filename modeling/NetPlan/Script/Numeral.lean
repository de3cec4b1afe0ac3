import NetPlan.Script.Flaw

/-!
# Numerals

A number in a script is written to the base ten, with a point, an exponent and the mark of an
imaginary number if wanted, or behind `0x`, `0o` or `0b` to the base sixteen, eight or two. An
underscore may stand before a digit. What follows a number is no letter; only some words may, and
that is doubted.

`Numeral.cut` tells where a number ends, without its value.
-/

namespace NetPlan.Script.Numeral

/-- The rest of a text behind a number, and what is doubted about the number. -/
structure End where
  rest : List Char
  doubt? : Option Doubt := none
deriving DecidableEq, Repr

/-- Where digits end; `none` if a number ends with an underscore. -/
def behindDigits? (isDigit : Char → Bool) : List Char → Option (List Char)
  | [] => some []
  | '_' :: rest =>
    match rest with
    | [] => none
    | d :: rest' => if isDigit d then behindDigits? isDigit rest' else none
  | d :: rest => if isDigit d then behindDigits? isDigit rest else some (d :: rest)

/-- The words that may follow a number without a space. -/
def followers : List String :=
  ["and", "else", "for", "or", "not"]

/-- The starts of words that may. -/
def followerStarts : List String :=
  ["if", "in", "is"]

/-- Whether a text starts with a word that may follow a number. -/
def startsWithFollower (rest : List Char) : Bool :=
  followerStarts.any (fun start => start.toList.isPrefixOf rest) ||
    followers.contains (String.ofList (rest.takeWhile isWordLike))

/-- The end of a number, in front of some rest. -/
def close (form : NumberForm) (rest : List Char) : Except TokenFlaw End :=
  if startsWithFollower rest then .ok ⟨rest, some (.number form)⟩
  else if rest.head?.any isWordLike then .error (.badNumber form)
  else .ok ⟨rest, none⟩

/-- The end of a number whose exponent has been read, if it has one. -/
def closeDecimal : List Char → Except TokenFlaw End
  | 'j' :: rest | 'J' :: rest => close .imaginary rest
  | rest => close .decimal rest

/-- The end of a number from the digits of its exponent on. -/
def cutPower (digits : List Char) : Except TokenFlaw End :=
  match behindDigits? Char.isDigit digits with
  | some rest => closeDecimal rest
  | none => .error (.badNumber .decimal)

/-- The end of a number from its exponent on, if it has one. -/
def cutExponent (rest : List Char) : Except TokenFlaw End :=
  match rest with
  | e :: sign :: more =>
    if e = 'e' || e = 'E' then
      if sign.isDigit then cutPower (sign :: more)
      else if sign = '+' || sign = '-' then
        if more.head?.any Char.isDigit then cutPower more else .error (.badNumber .decimal)
      else close .decimal rest
    else closeDecimal rest
  | _ => closeDecimal rest

/-- The end of a number behind its point. -/
def cutFraction (rest : List Char) : Except TokenFlaw End :=
  if rest.head?.any Char.isDigit then
    match behindDigits? Char.isDigit rest with
    | some rest => cutExponent rest
    | none => .error (.badNumber .decimal)
  else cutExponent rest

/-- Whether digits cannot go without a point, an exponent or a mark: they start with a zero and are
not all zeros. -/
def needsMore (digits : List Char) : Bool :=
  digits.head? = some '0' && digits.any fun c => '1' ≤ c && c ≤ '9'

/-- The end of a number to the base ten. -/
def cutDecimal (text : List Char) : Except TokenFlaw End :=
  match behindDigits? Char.isDigit text with
  | none => .error (.badNumber .decimal)
  | some rest =>
    match rest with
    | '.' :: more => cutFraction more
    | c :: _ =>
      if needsMore (text.takeWhile fun d => d.isDigit || d = '_') &&
          (['e', 'E', 'j', 'J'].contains c) = false then .error .leadingZeros
      else cutExponent rest
    | [] => if needsMore text then .error .leadingZeros else .ok ⟨[], none⟩

/-- What is wrong where a digit of a form is wanted. -/
def digitFlaw (form : NumberForm) (rest : List Char) : TokenFlaw :=
  match rest.head? with
  | some c => if c.isDigit then .badDigit c form else .badNumber form
  | none => .badNumber form

/-- The end of a number to another base than ten, behind the two characters that tell the base. -/
def cutBased (form : NumberForm) (isDigit : Char → Bool) (digits : List Char) :
    Except TokenFlaw End :=
  match digits with
  | [] => .error (.badNumber form)
  | first :: more =>
    let start := if first = '_' then more else digits
    if !start.head?.any isDigit then .error (digitFlaw form start)
    else
      match behindDigits? isDigit start with
      | none => .error (digitFlaw form (badPlace start))
      | some rest =>
        if rest.head?.any Char.isDigit then .error (digitFlaw form rest) else close form rest
where
  /-- What stands behind the first underscore that no digit follows. -/
  badPlace : List Char → List Char
    | [] => []
    | '_' :: rest => if rest.head?.any isDigit then badPlace rest else rest
    | _ :: rest => badPlace rest

/-- Whether a character is a digit to the base two. -/
def isBinaryDigit (c : Char) : Bool :=
  c = '0' || c = '1'

/-- The end of the number that a text starts with. -/
def cut : List Char → Except TokenFlaw End
  | '0' :: mark :: rest =>
    if mark = 'x' || mark = 'X' then cutBased .hexadecimal isHexDigit rest
    else if mark = 'o' || mark = 'O' then cutBased .octal isOctalDigit rest
    else if mark = 'b' || mark = 'B' then cutBased .binary isBinaryDigit rest
    else cutDecimal ('0' :: mark :: rest)
  | '.' :: rest => cutFraction rest
  | text => cutDecimal text

end NetPlan.Script.Numeral
