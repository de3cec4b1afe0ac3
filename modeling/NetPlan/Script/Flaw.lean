import NetPlan.Script.Escape
import NetPlan.Script.Token

/-!
# Flaws

Why a script cannot be read. As with faults, a flaw holds the data of its cause, and the wording is
in one function for each sort of flaw: those of tokens, of literals, of templates, of the form of
statements and expressions, of the names in a scope, and of the use of what is well formed.
-/

namespace NetPlan.Script

/-- The most brackets that may be open. -/
def maxBrackets : Nat := 200

/-- The wording of a number that is written with too many digits. -/
def digitLimitMessage (digits : Nat) : String :=
  "Exceeds the limit (4300 digits) for integer string conversion: value has " ++ toString digits ++
    " digits; use sys.set_int_max_str_digits() to increase the limit"

/-! ### Tokens -/

/-- Why a script cannot be cut into tokens. -/
inductive TokenFlaw where
  | nullCharacter
  /-- A literal does not end with its last line. -/
  | openLiteral (last : Nat)
  /-- A literal of three quotes does not end up to the last line. -/
  | openLongLiteral (last : Nat)
  /-- A backslash outside literals does not end its line. -/
  | strayBackslash
  /-- A backslash ends the script. -/
  | unfinished
  | openBracket (opening : Char)
  | closedBracket (closing : Char)
  /-- A bracket is closed by one of another sort; the line of the first is given if the two stand on
  different lines. -/
  | mismatch (closing opening : Char) (line? : Option Nat)
  | manyBrackets
  | badNumber (form : NumberForm)
  | badDigit (digit : Char) (form : NumberForm)
  | leadingZeros
  | badCharacter (c : Char) (printable : Bool)
  /-- A margin shrinks to a width that no margin around it has. -/
  | oddMargin
  /-- Whether a margin grows depends on the width of tabs. -/
  | tabbedMargin
  | deepMargin
deriving DecidableEq, Repr

/-- A number to the base sixteen, in at least four digits. -/
def codeText (n : Nat) : String :=
  let digits := (Nat.toDigits 16 n).map Char.toUpper
  String.ofList (List.replicate (4 - digits.length) '0' ++ digits)

/-- The wording of a flaw of tokens. -/
def TokenFlaw.message : TokenFlaw → String
  | nullCharacter => "source code string cannot contain null bytes"
  | openLiteral last => s!"unterminated string literal (detected at line {last})"
  | openLongLiteral last => s!"unterminated triple-quoted string literal (detected at line {last})"
  | strayBackslash => "unexpected character after line continuation character"
  | unfinished => "unexpected EOF while parsing"
  | openBracket opening => s!"'{opening}' was never closed"
  | closedBracket closing => s!"unmatched '{closing}'"
  | mismatch closing opening line? =>
    s!"closing parenthesis '{closing}' does not match opening parenthesis '{opening}'" ++
      match line? with
      | some line => s!" on line {line}"
      | none => ""
  | manyBrackets => "too many nested parentheses"
  | badNumber form => s!"invalid {form.word} literal"
  | badDigit digit form => s!"invalid digit '{digit}' in {form.word} literal"
  | leadingZeros =>
    "leading zeros in decimal integer literals are not permitted; use an 0o prefix for octal integers"
  | badCharacter c true => s!"invalid character '{c}' (U+{codeText c.toNat})"
  | badCharacter c false => s!"invalid non-printable character U+{codeText c.toNat}"
  | oddMargin => "unindent does not match any outer indentation level"
  | tabbedMargin => "inconsistent use of tabs and spaces in indentation"
  | deepMargin => "too many levels of indentation"

/-! ### Literals -/

/-- Why a number or a literal has no value. -/
inductive LiteralFlaw where
  | longNumber (digits : Nat)
  | badEscape (e : BadEscape)
  /-- An escape in a literal of bytes wants two hexadecimal digits. -/
  | badByteEscape (place : Nat)
  /-- A literal of bytes holds a character beyond ASCII. -/
  | wideCharacter
  /-- A literal of bytes stands beside one of text. -/
  | mixture
deriving DecidableEq, Repr

/-- The wording of what is wrong with an escape. -/
def Badness.message : Badness → String
  | short 'x' => "truncated \\xXX escape"
  | short 'u' => "truncated \\uXXXX escape"
  | short _ => "truncated \\UXXXXXXXX escape"
  | beyond => "illegal Unicode character"
  | nameless => "malformed \\N character escape"
  | unknownName => "unknown Unicode character name"

/-- The wording of a flaw of literals. -/
def LiteralFlaw.message : LiteralFlaw → String
  | longNumber digits =>
    digitLimitMessage digits ++
      " - Consider hexadecimal for huge integer literals to avoid decimal conversion limits."
  | badEscape e =>
    "(unicode error) 'unicodeescape' codec can't decode bytes in position " ++
      s!"{e.first}-{e.last}: {e.badness.message}"
  | badByteEscape place => s!"(value error) invalid \\x escape at position {place}"
  | wideCharacter => "bytes can only contain ASCII literal characters"
  | mixture => "cannot mix bytes and nonbytes literals"

/-! ### Templates -/

/-- Why a template, a literal with fields for values in it, cannot be read. -/
inductive TemplateFlaw where
  | deepField
  | backslash
  | comment
  | manyBrackets
  | unmatched (bracket : Char)
  | mismatch (closing opening : Char)
  | openText
  | openField
  | closedField
  | emptyField
  /-- A field has no expression in front of what goes on with it. -/
  | missing (next : Char)
  | conversion
deriving DecidableEq, Repr

/-- The wording of a flaw of templates. -/
def TemplateFlaw.message : TemplateFlaw → String
  | deepField => "f-string: expressions nested too deeply"
  | backslash => "f-string expression part cannot include a backslash"
  | comment => "f-string expression part cannot include '#'"
  | manyBrackets => "f-string: too many nested parenthesis"
  | unmatched bracket => s!"f-string: unmatched '{bracket}'"
  | mismatch closing opening =>
    s!"f-string: closing parenthesis '{closing}' does not match opening parenthesis '{opening}'"
  | openText => "f-string: unterminated string"
  | openField => "f-string: expecting '\x7d'"
  | closedField => "f-string: single '\x7d' is not allowed"
  | emptyField => "f-string: empty expression not allowed"
  | missing next => s!"f-string: expression required before '{next}'"
  | conversion => "f-string: invalid conversion character: expected 's', 'r', or 'a'"

/-! ### Forms -/

/-- Why tokens do not make statements. What is named by a text is a sort of expression. -/
inductive FormFlaw where
  | invalid
  | unexpectedIndent
  | unexpectedUnindent
  | expected (sign : String)
  | missingHandler
  | missingBlock
  /-- Something on a line wants a block. -/
  | missingBlockAfter (what : String) (line : Nat)
  | missingComma
  | missingElse
  | bareCall (name : String)
  | namedExpression (what : String)
  | singleEqual
  | assignmentHere (what : String)
  | assignment (what : String)
  | deletion (what : String)
  | annotatedGroup (what : String)
  | annotatedTarget
  | assignedYield
  | augmentation (what : String)
  | unpackedComprehension
  | bareComprehensionTarget
  | unpackedDictComprehension
  | firstSlash
  | secondSlash
  | defaultOrder
  | groupedParameters (lambda : Bool)
  | slashBehindStar
  | slashBeforeStar
  | missingDefault
  | bareStar
  | starDefault
  | secondStar
  | doubleStarDefault
  | behindDoubleStar
  | starredGroup
  | doubleStarredGroup
  | trailingImportComma
  | mixedHandlers
  | bareExceptions
  | missingExceptions
  | wildcardTarget
  | patternTarget
  | patternOrder
  | starredDictValue
  | missingDictValue
  | missingDictColon
  | argumentEqual
  | unpackOrder
  | bareGenerator
  | argumentOrder (unpacked : Bool)
  | realWanted
  | imaginaryWanted
deriving DecidableEq, Repr

/-- The wording of a flaw of forms. -/
def FormFlaw.message : FormFlaw → String
  | invalid => "invalid syntax"
  | unexpectedIndent => "unexpected indent"
  | unexpectedUnindent => "unexpected unindent"
  | expected sign => s!"expected '{sign}'"
  | missingHandler => "expected 'except' or 'finally' block"
  | missingBlock => "expected an indented block"
  | missingBlockAfter what line => s!"expected an indented block after {what} on line {line}"
  | missingComma => "invalid syntax. Perhaps you forgot a comma?"
  | missingElse => "expected 'else' after 'if' expression"
  | bareCall name => s!"Missing parentheses in call to '{name}'. Did you mean {name}(...)?"
  | namedExpression what => s!"cannot use assignment expressions with {what}"
  | singleEqual => "invalid syntax. Maybe you meant '==' or ':=' instead of '='?"
  | assignmentHere what => s!"cannot assign to {what} here. Maybe you meant '==' instead of '='?"
  | assignment what => s!"cannot assign to {what}"
  | deletion what => s!"cannot delete {what}"
  | annotatedGroup what => s!"only single target (not {what}) can be annotated"
  | annotatedTarget => "illegal target for annotation"
  | assignedYield => "assignment to yield expression not possible"
  | augmentation what => s!"'{what}' is an illegal expression for augmented assignment"
  | unpackedComprehension => "iterable unpacking cannot be used in comprehension"
  | bareComprehensionTarget => "did you forget parentheses around the comprehension target?"
  | unpackedDictComprehension => "dict unpacking cannot be used in dict comprehension"
  | firstSlash => "at least one argument must precede /"
  | secondSlash => "/ may appear only once"
  | defaultOrder => "non-default argument follows default argument"
  | groupedParameters false => "Function parameters cannot be parenthesized"
  | groupedParameters true => "Lambda expression parameters cannot be parenthesized"
  | slashBehindStar => "/ must be ahead of *"
  | slashBeforeStar => "expected comma between / and *"
  | missingDefault => "expected default value expression"
  | bareStar => "named arguments must follow bare *"
  | starDefault => "var-positional argument cannot have default value"
  | secondStar => "* argument may appear only once"
  | doubleStarDefault => "var-keyword argument cannot have default value"
  | behindDoubleStar => "arguments cannot follow var-keyword argument"
  | starredGroup => "cannot use starred expression here"
  | doubleStarredGroup => "cannot use double starred expression here"
  | trailingImportComma => "trailing comma not allowed without surrounding parentheses"
  | mixedHandlers => "cannot have both 'except' and 'except*' on the same 'try'"
  | bareExceptions => "multiple exception types must be parenthesized"
  | missingExceptions => "expected one or more exception types"
  | wildcardTarget => "cannot use '_' as a target"
  | patternTarget => "invalid pattern target"
  | patternOrder => "positional patterns follow keyword patterns"
  | starredDictValue => "cannot use a starred expression in a dictionary value"
  | missingDictValue => "expression expected after dictionary key and ':'"
  | missingDictColon => "':' expected after dictionary key"
  | argumentEqual => "expression cannot contain assignment, perhaps you meant \"==\"?"
  | unpackOrder => "iterable argument unpacking follows keyword argument unpacking"
  | bareGenerator => "Generator expression must be parenthesized"
  | argumentOrder false => "positional argument follows keyword argument"
  | argumentOrder true => "positional argument follows keyword argument unpacking"
  | realWanted => "real number required in complex literal"
  | imaginaryWanted => "imaginary number required in complex literal"

/-! ### Scopes -/

/-- The declarations that take a name out of its scope. -/
inductive Outer where
  | everywhere
  | nonlocal
deriving DecidableEq, Repr

/-- The word for such a declaration. -/
def Outer.word : Outer → String
  | everywhere => "global"
  | nonlocal => "nonlocal"

/-- What a name was before a declaration takes it out of its scope. -/
inductive Past where
  | parameter
  | used
  | annotated
  | assigned
deriving DecidableEq, Repr

/-- The sorts of comprehensions. -/
inductive ComprehensionSort where
  | list
  | set
  | dict
  | generator
deriving DecidableEq, Repr

/-- The wording of a comprehension. -/
def ComprehensionSort.word : ComprehensionSort → String
  | list => "list comprehension"
  | set => "set comprehension"
  | dict => "dict comprehension"
  | generator => "generator expression"

/-- Why the names of a scope do not go together. -/
inductive ScopeFlaw where
  | late (name : String) (outer : Outer) (past : Past)
  | repeatedParameter (name : String)
  | unbound (name : String)
  | everywhereAndNonlocal (name : String)
  | topNonlocal
  | starImport
  | boundIteration (name : String)
  | innerIteration (name : String)
  | namedInIterable
  | namedInClass
  | yieldInside (sort : ComprehensionSort)
deriving DecidableEq, Repr

/-- The wording of a flaw of scopes. -/
def ScopeFlaw.message : ScopeFlaw → String
  | late name outer .parameter => s!"name '{name}' is parameter and {outer.word}"
  | late name outer .used => s!"name '{name}' is used prior to {outer.word} declaration"
  | late name outer .annotated => s!"annotated name '{name}' can't be {outer.word}"
  | late name outer .assigned => s!"name '{name}' is assigned to before {outer.word} declaration"
  | repeatedParameter name => s!"duplicate argument '{name}' in function definition"
  | unbound name => s!"no binding for nonlocal '{name}' found"
  | everywhereAndNonlocal name => s!"name '{name}' is nonlocal and global"
  | topNonlocal => "nonlocal declaration not allowed at module level"
  | starImport => "import * only allowed at module level"
  | boundIteration name =>
    s!"assignment expression cannot rebind comprehension iteration variable '{name}'"
  | innerIteration name =>
    s!"comprehension inner loop cannot rebind assignment expression target '{name}'"
  | namedInIterable =>
    "assignment expression cannot be used in a comprehension iterable expression"
  | namedInClass =>
    "assignment expression within a comprehension cannot be used in a class body"
  | yieldInside sort => s!"'yield' inside {sort.word}"

/-! ### Uses -/

/-- Why what is well formed cannot be used where it stands. -/
inductive UseFlaw where
  | outsideFunction (word : String)
  | outsideAsync (word : String)
  | asyncComprehension
  | delegatedYield
  | generatorReturn
  | breakOutside
  | continueOutside
  | leavingGroup
  | earlyBareHandler
  | starred
  | bareStarredTarget
  | secondStarredTarget
  | farStarredTarget
  | repeatedArgument (name : String)
  | reservedTarget (deletion : Bool)
  | deepBlocks
  | lateFeature
  | patternValue
  | patternKey
  | captureShadows (name : String)
  | wildcardShadows
  | secondStarredPattern
  | farStarredPattern
  | unevenAlternatives
  | repeatedCapture (name : String)
  | repeatedAttribute (name : String)
  | repeatedKey (key : String)
deriving DecidableEq, Repr

/-- The wording of a flaw of use. -/
def UseFlaw.message : UseFlaw → String
  | outsideFunction word => s!"'{word}' outside function"
  | outsideAsync word => s!"'{word}' outside async function"
  | asyncComprehension => "asynchronous comprehension outside of an asynchronous function"
  | delegatedYield => "'yield from' inside async function"
  | generatorReturn => "'return' with value in async generator"
  | breakOutside => "'break' outside loop"
  | continueOutside => "'continue' not properly in loop"
  | leavingGroup => "'break', 'continue' and 'return' cannot appear in an except* block"
  | earlyBareHandler => "default 'except:' must be last"
  | starred => "can't use starred expression here"
  | bareStarredTarget => "starred assignment target must be in a list or tuple"
  | secondStarredTarget => "multiple starred expressions in assignment"
  | farStarredTarget => "too many expressions in star-unpacking assignment"
  | repeatedArgument name => s!"keyword argument repeated: {name}"
  | reservedTarget false => "cannot assign to __debug__"
  | reservedTarget true => "cannot delete __debug__"
  | deepBlocks => "too many statically nested blocks"
  | lateFeature => "from __future__ imports must occur at the beginning of the file"
  | patternValue => "patterns may only match literals and attribute lookups"
  | patternKey => "mapping pattern keys may only match literals and attribute lookups"
  | captureShadows name => s!"name capture '{name}' makes remaining patterns unreachable"
  | wildcardShadows => "wildcard makes remaining patterns unreachable"
  | secondStarredPattern => "multiple starred names in sequence pattern"
  | farStarredPattern => "too many expressions in star-unpacking sequence pattern"
  | unevenAlternatives => "alternative patterns bind different names"
  | repeatedCapture name => s!"multiple assignments to name '{name}' in pattern"
  | repeatedAttribute name => s!"attribute name repeated in class pattern: {name}"
  | repeatedKey key => s!"mapping pattern checks duplicate key ({key})"

/-! ### All flaws -/

/-- Why a script cannot be read. -/
inductive Flaw where
  | token (f : TokenFlaw)
  | literal (f : LiteralFlaw)
  | template (f : TemplateFlaw)
  | form (f : FormFlaw)
  | scope (f : ScopeFlaw)
  | use (f : UseFlaw)
deriving DecidableEq, Repr

/-- The wording of a flaw. -/
def Flaw.message : Flaw → String
  | token f => f.message
  | literal f => f.message
  | template f => f.message
  | form f => f.message
  | scope f => f.message
  | use f => f.message

/-- A flaw and the line that it is found on. A flaw that is found by the reading of a field of a
template says so. -/
structure PlacedFlaw where
  flaw : Flaw
  line : Nat
  inField : Bool := false
deriving DecidableEq, Repr

/-- The wording of a flaw, without its line. -/
def PlacedFlaw.message (f : PlacedFlaw) : String :=
  if f.inField then "f-string: " ++ f.flaw.message else f.flaw.message

end NetPlan.Script
