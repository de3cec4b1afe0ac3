import NetPlan.Script.Use.Expression
import NetPlan.Text.Quoted

/-!
# The use of patterns

How patterns are checked. The names that a pattern captures are collected. A pattern that matches
everything may stand only where no other one comes behind it.
-/

namespace NetPlan.Script.Use

/-- Whether a pattern matches everything and captures nothing. -/
def isWildcard (p : Used) : Bool :=
  match p.label with
  | .capture none => p.parts.isEmpty
  | _ => false

/-- Whether a pattern takes the rest of a row. -/
def isStarPattern (p : Used) : Bool :=
  match p.label with
  | .starPattern _ => true
  | _ => false

/-- Captures a name, which no pattern does twice. -/
def capture (s : Setting) : Option String → Check Unit
  | none => return
  | some name => do
    s.storeName name
    if (← get).captured.contains name then s.complain (.repeatedCapture name)
    modify fun f => { f with captured := f.captured ++ [name] }

/-- Checks patterns within another one. -/
def patterns (s : Setting) (ps : List Used) : Check Unit :=
  Used.checkAll ps { s with mayMatchAll := true }

/-- Checks the patterns of a row. If all of them match everything, there is nothing to check; if one
takes the rest without a name, those that match everything are passed over. -/
def sequence (s : Setting) (ps : List Used) : Check Unit := do
  let stars := ps.filter isStarPattern
  if 1 < stars.length then s.complain .secondStarredPattern
  let isPlain (p : Used) : Bool :=
    match p.label with
    | .starPattern none => true
    | _ => isWildcard p
  if !ps.all isPlain then
    if maxFront < (ps.takeWhile (!isStarPattern ·)).length && !stars.isEmpty
        && !stars.all isPlain then
      s.complain .farStarredPattern
    patterns s ps

/-- The constant of a tree, if it is one. -/
def constant? (p : Used) : Option Constant :=
  match p.label with
  | .constant c => some c
  | _ => none

/-- Whether a tree is an attribute. -/
def isAttribute (p : Used) : Bool :=
  match p.label with
  | .attribute _ => true
  | _ => false

/-- Whether two constants are known to be equal. -/
def isSame (a b : Constant) : Bool :=
  match a, b with
  | .nothing, .nothing => true
  | .text s, .text t => s = t
  | _, _ =>
    match a.number?, b.number? with
    | some (.whole m), some (.whole n) => m = n
    | _, _ => false

/-- A constant as it is written. -/
def written : Constant → String
  | .flag true => "True"
  | .flag false => "False"
  | .whole n => toString n
  | .text s => Text.quoted (String.ofList s)
  | .nothing => "None"
  | _ => ""

/-- Checks the keys of a mapping, given those before. -/
def keys (s : Setting) (seen : List Constant) : List Used → Check Unit
  | [] => return
  | k :: rest => do
    match constant? k with
    | some c =>
      if seen.any (isSame c) then s.complain (.repeatedKey (written c))
      keys s (c :: seen) rest
    | none =>
      if !isAttribute k then s.complain .patternKey
      k.check (s.value s.line)
      keys s seen rest

/-- Turns down reserved and repeated names of attributes. -/
def checkAttributes : Setting → List Used → Check Unit
  | _, [] => return
  | s, p :: rest => do
    let lineOf (p : Used) : Nat := ((p.part? 0).map Noted.line).getD p.line
    match p.label with
    | .namedPattern name =>
      (s.onLine (lineOf p)).storeName name
      let isSame (q : Used) : Bool :=
        match q.label with
        | .namedPattern other => other = name
        | _ => false
      match rest.find? isSame with
      | some other => (s.onLine (lineOf other)).complain (.repeatedAttribute name)
      | none => checkAttributes s rest
    | _ => checkAttributes s rest

/-- Checks alternatives one after another, given the names that the first one captures. -/
def alternatives (s : Setting) (first? : Option (List String)) : List Used → Check (List String)
  | [] => return first?.getD []
  | p :: rest => do
    modify fun f => { f with captured := [] }
    p.check { s with line := p.line, mayMatchAll := rest.isEmpty && s.mayMatchAll }
    let names := (← get).captured
    let first := first?.getD names
    if names.length ≠ first.length || !first.all names.contains then
      (s.onLine p.line).complain .unevenAlternatives
    alternatives s (some first) rest

/-- Checks a pattern. -/
def pattern (label : Label) (line : Nat) (parts : List Used) (s : Setting) : Check Unit :=
  let s := { s.value line with mayMatchAll := s.mayMatchAll }
  match label, parts with
  | .valuePattern, [v] => do
    if (constant? v).isNone && !isAttribute v then s.complain .patternValue
    v.check s
  | .sequencePattern, _ => sequence s parts
  | .starPattern name?, _ => capture s name?
  | .mappingPattern rest?, _ => do
    keys s [] (partsAt 0 parts)
    patterns s (partsAt 1 parts)
    capture s rest?
  | .classPattern, [c, positional, named] => do
    checkAttributes s named.parts
    c.check s
    let inner := named.parts.flatMap Noted.parts
    patterns s ((positional.parts ++ inner).filter (!isWildcard ·))
  | .capture name?, [] =>
    if s.mayMatchAll then capture s name?
    else
      match name? with
      | some name => s.complain (.captureShadows name)
      | none => s.complain .wildcardShadows
  | .capture name?, _ => do
    Used.checkAll parts s
    capture s name?
  | .alternatives, _ => do
    let before := (← get).captured
    let names ← alternatives s none parts
    modify fun f => { f with captured := before }
    let last := (parts.getLast?.map Noted.line).getD line
    names.forM fun name => capture { s with line := last } (some name)
  | _, _ => return

end NetPlan.Script.Use
