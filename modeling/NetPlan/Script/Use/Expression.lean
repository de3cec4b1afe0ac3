import NetPlan.Script.Use.Basic

/-!
# The use of expressions

How expressions are checked. What is sure to fail when it is run is doubted: a constant is compared
by identity, or a value that the text shows is called or indexed although its type does not allow
that.
-/

namespace NetPlan.Script.Use

/-! ### Doubts -/

/-- The type of the value of a tree, if the text shows it. -/
def type? (p : Used) : Option String :=
  match p.label with
  | .tuple => some "tuple"
  | .list | .comprehension .list => some "list"
  | .dict | .comprehension .dict => some "dict"
  | .set | .comprehension .set => some "set"
  | .comprehension .generator => some "generator"
  | .lambda => some "function"
  | .template | .field => some "str"
  | .constant c => some c.type
  | _ => none

/-- Whether a tree is a constant that is not the only one of its value. -/
def isLiteral (p : Used) : Bool :=
  match p.label with
  | .constant c =>
    match c with
    | .nothing | .flag _ | .dots => false
    | _ => true
  | _ => false

/-- Doubts the first comparison by identity with a literal. -/
def doubtIdentity (left : Used) : List Relation → List Used → Check Unit
  | r :: relations, right :: rest =>
    if (r = .identity || r = .difference) && (isLiteral left || isLiteral right) then
      Check.doubt (.identity (r = .difference))
    else doubtIdentity right relations rest
  | _, _ => return

/-- Doubts the call of a value that cannot be called. -/
def doubtCall (f : Used) : Check Unit :=
  match f.label with
  | .lambda => return
  | _ =>
    match type? f with
    | some type => Check.doubt (.call type)
    | none => return

/-- Doubts an index into a value that has none, or one of a wrong type. -/
def doubtIndex (p i : Used) : Check Unit := do
  let indexed := type? p
  match p.label with
  | .constant (.text _) | .constant (.bytes _) | .constant (.group _) | .tuple | .list
  | .comprehension .list | .template | .field =>
    match indexed, type? i with
    | some type, some other =>
      if other = "int" || other = "bool" then return else Check.doubt (.index type other)
    | _, _ => return
  | .constant _ | .set | .comprehension .set | .comprehension .generator | .lambda =>
    match indexed with
    | some type => Check.doubt (.subscript type)
    | none => return
  | _ => return

/-! ### Rows -/

/-- Whether a tree has a star. -/
def isStarred (p : Used) : Bool :=
  match p.label with
  | .starred => true
  | _ => false

/-- The most places in front of one with a star. -/
def maxFront : Nat := 255

/-- Turns down stars in a row of places that is stored to, but for one that is near enough. -/
def checkStars (s : Setting) (ps : List Used) : Check Unit :=
  let front := ps.takeWhile (!isStarred ·)
  if front.length = ps.length then return
  else if maxFront < front.length then s.complain .farStarredTarget
  else if (ps.drop (front.length + 1)).any isStarred then s.complain .secondStarredTarget
  else return

/-- Checks the items of a row. -/
def row (s : Setting) (ps : List Used) : Check Unit := do
  if s.role = .store then checkStars s ps
  Used.checkAll ps { s with starry := s.role ≠ .delete }

/-! ### Arguments -/

/-- The name of an argument, if it is given by one. -/
def argumentName? (p : Used) : Option String :=
  match p.label with
  | .argument name? => name?
  | _ => none

/-- Whether an argument is given by its place. -/
def isPositional (p : Used) : Bool :=
  match p.label with
  | .argument _ => false
  | _ => true

/-- Turns down reserved and repeated names of arguments. -/
def checkNames (s : Setting) : List Used → Check Unit
  | [] => return
  | p :: rest => do
    match argumentName? p with
    | none => checkNames s rest
    | some name =>
      s.storeName name
      match rest.find? (argumentName? · = some name) with
      | some other => (s.onLine other.line).complain (.repeatedArgument name)
      | none => checkNames s rest

/-- Checks arguments, those with names last. -/
def arguments (s : Setting) (ps : List Used) : Check Unit := do
  Used.checkAll (ps.filter isPositional) { s with starry := true }
  Used.checkAll (ps.filter (!isPositional ·)) s

/-! ### Functions and comprehensions -/

/-- Turns down parameters with a reserved name. -/
def checkParameters (s : Setting) (params : List Used) : Check Unit :=
  params.forM fun p =>
    match p.label with
    | .parameter _ name => s.storeName name
    | _ => return

/-- The parts of parameters at a place: their annotations or their defaults. -/
def partsAt (place : Nat) (params : List Used) : List Used :=
  params.flatMap fun p => (p.part? place).toList

/-- A lambda. -/
def lambda (line : Nat) (params body : Used) (s : Setting) : Check Unit := do
  let s := s.value line
  checkParameters s params.parts
  Used.checkAll (partsAt 1 params.parts) s
  body.check { code := .lambda, line }

/-- Whether a comprehension waits, given its element and its clauses. -/
def waitsInside (element : Used) (clauses : List Used) : Bool :=
  let async := clauses.any fun p =>
    match p.label with
    | .clause async => async
    | _ => false
  let first := (clauses.take 1).flatMap fun p => (p.part? 0).toList ++ (p.part? 2).toList
  async || element.note.waits || Used.waitAny first || Used.waitAny (clauses.drop 1)

/-- Checks the clauses of a comprehension in its own setting; the first iterable is not part of
it. -/
def clauses (s : Setting) (first : Bool) : List Used → Check Unit
  | [] => return
  | c :: rest => do
    match c.parts with
    | [v, i, conditions] =>
      if !first then i.check (s.value s.line)
      v.check (s.target s.line)
      conditions.check (s.value s.line)
    | _ => return
    clauses s false rest

/-- A comprehension. -/
def comprehension (line : Nat) (sort : ComprehensionSort) (element : Used) (cs : List Used)
    (s : Setting) : Check Unit := do
  let waits := waitsInside element cs
  let s := s.value line
  if waits && sort ≠ .generator && s.code ≠ .asyncFunction && s.code ≠ .comprehension then
    s.complain .asyncComprehension
  let inner : Setting := { code := .comprehension, line, waits }
  clauses inner true cs
  element.check inner
  Used.checkAll ((cs.take 1).flatMap fun c => (c.part? 1).toList) s

/-! ### Waiting and yielding -/

/-- Whether code is that of a function. -/
def isFunction (code : CodeSort) : Bool :=
  match code with
  | .script | .klass => false
  | _ => true

/-- Turns down an `await` at a wrong place. -/
def checkAwait (s : Setting) : Check Unit :=
  if !isFunction s.code then s.complain (.outsideFunction "await")
  else if s.code ≠ .asyncFunction && s.code ≠ .comprehension then s.complain (.outsideAsync "await")
  else return

/-- Turns down a `yield` at a wrong place. -/
def checkYield (delegated : Bool) (s : Setting) : Check Unit :=
  if !isFunction s.code then s.complain (.outsideFunction "yield")
  else if delegated && s.code = .asyncFunction then s.complain .delegatedYield
  else return

/-! ### Expressions -/

/-- Checks a name. -/
def name (text : String) (s : Setting) : Check Unit :=
  if text = Setting.reservedName && s.role ≠ .load then
    s.complain (.reservedTarget (s.role = .delete))
  else return

/-- Checks an expression. -/
def expression (label : Label) (line : Nat) (parts : List Used) (s : Setting) : Check Unit :=
  let at' := { s with line, starry := false }
  let value := s.value line
  match label, parts with
  | .name text, _ => name text at'
  | .constant _, _ => return
  | .tuple, _ | .list, _ => row at' parts
  | .set, _ => row value parts
  | .starred, _ =>
    if s.starry then Used.checkAll parts at'
    else if s.role = .store then at'.complain .bareStarredTarget
    else at'.complain .starred
  | .comprehension sort, [element, cs] => comprehension line sort element cs.parts s
  | .attribute text, _ => do
    Used.checkAll parts value
    if s.role = .store then at'.storeName text
  | .subscript, [p, i] => do
    if s.role = .load then doubtIndex p i
    Used.checkAll parts value
  | .call, [f, args] => do
    checkNames value (args.parts.filter (!isPositional ·))
    doubtCall f
    f.check value
    arguments value args.parts
  | .comparison relations, [left, rest] => do
    doubtIdentity left relations rest.parts
    left.check value
    Used.checkAll rest.parts value
  | .lambda, [params, body] => lambda line params body s
  | .yielding, _ => do
    checkYield false at'
    Used.checkAll parts value
  | .yieldingFrom, _ => do
    checkYield true at'
    Used.checkAll parts value
  | .await, _ => do
    checkAwait at'
    Used.checkAll parts value
  | .naming, [n, v] => do
    v.check value
    n.check (s.target line)
  | _, _ => Used.checkAll parts value

/-- Whether the code that an expression belongs to waits in it. -/
def waitsIn (label : Label) (parts : List Used) : Bool :=
  match label, parts with
  | .await, _ => true
  | .lambda, [params, _] => params.note.waits
  | .comprehension sort, [element, cs] =>
    Used.waitAny ((cs.parts.take 1).flatMap fun c => (c.part? 1).toList) ||
      sort ≠ .generator && waitsInside element cs.parts
  | .function _ _, _ => Used.waitAny (parts.take 3)
  | .klass _, _ => Used.waitAny (parts.take 2)
  | _, _ => Used.waitAny parts

/-- Whether the code that a tree belongs to yields values in it. -/
def yieldsIn (label : Label) (parts : List Used) : Bool :=
  match label, parts with
  | .yielding, _ | .yieldingFrom, _ => true
  | .lambda, [params, _] => params.note.yields
  | .comprehension _, [_, cs] =>
    Used.yieldAny ((cs.parts.take 1).flatMap fun c => (c.part? 1).toList)
  | .function _ _, _ => Used.yieldAny (parts.take 3)
  | .klass _, _ => Used.yieldAny (parts.take 2)
  | _, _ => Used.yieldAny parts

end NetPlan.Script.Use
