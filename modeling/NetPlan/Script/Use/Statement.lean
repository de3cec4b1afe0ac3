import NetPlan.Script.Use.Pattern

/-!
# The use of statements

How statements are checked, and with them whole scripts.
-/

namespace NetPlan.Script.Use

/-! ### Leaving blocks -/

/-- Leaves the blocks around a place, with a value or without one: all of them, or those within the
innermost loop. Whether there is a loop then. -/
def leave (s : Setting) (withValue toLoop : Bool) : List Block → Check Bool
  | [] => return false
  | .group :: _ => s.complain .leavingGroup
  | .loop :: rest => if toLoop then return true else leave s withValue toLoop rest
  | .closed again :: rest => do
    again withValue
    leave s withValue toLoop rest
  | .other :: rest => leave s withValue toLoop rest

/-- Whether a tree is a constant. -/
def isConstant (p : Used) : Bool :=
  (constant? p).isSome

/-- A `return`. -/
def returning (s : Setting) (v : Used) : Check Unit := do
  if !isFunction s.code then s.complain (.outsideFunction "return")
  if !v.isAbsent && s.waits && s.yields then s.complain .generatorReturn
  let hasValue := !v.isAbsent && !isConstant v
  if hasValue then v.check (s.value s.line)
  let _ ← leave s hasValue false s.blocks

/-! ### Loops -/

/-- A loop over values. -/
def forLoop (s : Setting) (async : Bool) (t i body alternative : Used) : Check Unit := do
  if async && s.code ≠ .asyncFunction then s.complain (.outsideAsync "async for")
  let inner ← s.within .loop
  i.check (s.value s.line)
  t.check (s.target s.line)
  body.check inner
  alternative.check s

/-- A loop with a condition, which is checked before the loop and behind its body. -/
def whileLoop (s : Setting) (condition body alternative : Used) : Check Unit := do
  let inner ← s.within .loop
  condition.check (s.value s.line)
  body.check inner
  condition.check (s.value s.line)
  alternative.check s

/-! ### Contexts -/

/-- Checks a block in the contexts of some items. -/
def context (s : Setting) (async : Bool) (body : Used) : List Used → Check Unit
  | [] => body.check s
  | item :: rest => do
    if async && s.code ≠ .asyncFunction then s.complain (.outsideAsync "async with")
    match item.parts with
    | [v, t] =>
      v.check (s.value s.line)
      let inner ← s.within .other
      t.check (s.target s.line)
      context inner async body rest
    | _ => return

/-! ### Attempts -/

/-- Checks a handler; `last` says whether no other one follows. Its name is turned down behind its
body. -/
def handler (s : Setting) (group last : Bool) (h : Used) : Check Unit :=
  match h.label, h.parts with
  | .handler name?, [type, body] => do
    let s := { s with line := h.line }
    if type.isAbsent && !last && !group then s.complain .earlyBareHandler
    type.check (s.value s.line)
    body.check (← s.within .other)
    match name? with
    | some name => s.storeName name
    | none => return
  | _, _ => return

/-- Checks handlers one after another. -/
def handlers (s : Setting) (group : Bool) : List Used → Check Unit
  | [] => return
  | h :: rest => do
    handler s group rest.isEmpty h
    handlers s group rest

/-- Checks a block with its handlers. -/
def attemptHandled (s : Setting) (group : Bool) (body : Used) (hs : List Used) (alternative : Used) :
    Check Unit := do
  body.check (← s.within .other)
  if group then
    handlers (← s.within .group) group hs
    alternative.check s
  else
    alternative.check s
    handlers (← s.within .other) group hs

/-- Checks a block with what takes care of its failures, and with its closing block. That is checked
behind the block and in case of a failure, and wherever the block is left early. -/
def attempt (s : Setting) (group : Bool) (body handlers alternative final : Used) : Check Unit := do
  if final.isAbsent then attemptHandled s group body handlers.parts alternative
  else
    let again (withValue : Bool) : Check Unit := do
      final.check (← if withValue then s.within .other else pure s)
    let inner ← s.within (.closed again)
    if handlers.parts.isEmpty then body.check inner
    else attemptHandled inner group body handlers.parts alternative
    final.check s
    final.check (← s.within .other)

/-! ### Choices by patterns -/

/-- Checks the cases of a choice; `first` says whether none comes before. A last case for everything
else is not checked for its pattern. -/
def cases (s : Setting) (first : Bool) : List Used → Check Unit
  | [] => return
  | c :: rest => do
    match c.parts with
    | [p, guard, body] =>
      let s := { s with line := p.line }
      if !(rest.isEmpty && !first && isWildcard p) then
        modify fun f => { f with captured := [] }
        p.check { s with mayMatchAll := !guard.isAbsent || rest.isEmpty }
      guard.check (s.value s.line)
      body.check s
    | _ => return
    cases s false rest

/-! ### Definitions -/

/-- Checks the annotations of parameters. That of a parameter for the rest may have a star. -/
def annotations (s : Setting) (params : List Used) : Check Unit :=
  params.forM fun p =>
    let starry := match p.label with
      | .parameter .rest _ => true
      | _ => false
    Used.checkAll (p.part? 0).toList { s with starry }

/-- The parameters of a function but for the one for all other names, and then that one. -/
def annotationOrder (params : List Used) : List Used :=
  let isLast (p : Used) : Bool :=
    match p.label with
    | .parameter .namedRest _ => true
    | _ => false
  params.filter (!isLast ·) ++ params.filter isLast

/-- A function. -/
def function (s : Setting) (async : Bool) (name : String) (decorators params result body : Used) :
    Check Unit := do
  let value := s.value s.line
  checkParameters s params.parts
  decorators.check value
  Used.checkAll (partsAt 1 params.parts) value
  annotations value (annotationOrder params.parts)
  result.check value
  body.check
    { code := if async then .asyncFunction else .function
      line := s.line
      waits := async || body.note.waits
      yields := body.note.yields }
  s.storeName name

/-- A class: its body comes before its arguments. -/
def klass (s : Setting) (name : String) (decorators args body : Used) : Check Unit := do
  let value := s.value s.line
  decorators.check value
  body.check { code := .klass, line := s.line }
  checkNames value (args.parts.filter (!isPositional ·))
  arguments value args.parts
  s.storeName name

/-! ### Assignments -/

/-- An assignment with an operation: what is stored to is loaded first. -/
def augmentation (s : Setting) (t v : Used) : Check Unit := do
  match t.label with
  | .attribute _ | .subscript => Used.checkAll t.parts (s.value t.line)
  | _ => pure ()
  v.check (s.value s.line)
  match t.label with
  | .name text => (s.onLine t.line).storeName text
  | _ => pure ()

/-- The values in an index: those of its items and slices. -/
def indexValues (p : Used) : List Used :=
  match p.label with
  | .slice => p.parts
  | .tuple => p.parts.flatMap fun q =>
      match q.label with
      | .slice => q.parts
      | _ => [q]
  | _ => [p]

/-- An annotation, which is checked in scripts and classes only, with the value that there may
be. -/
def annotating (s : Setting) (t a v : Used) : Check Unit := do
  let value := s.value s.line
  if !v.isAbsent then
    v.check value
    t.check (s.target s.line)
  match t.label, t.parts with
  | .name text, _ => s.storeName text
  | .attribute text, _ => do
    s.storeName text
    if v.isAbsent then Used.checkAll t.parts value
  | .subscript, [p, i] =>
    if v.isAbsent then
      p.check value
      Used.checkAll (indexValues i) value
  | _, _ => pure ()
  if !isFunction s.code then a.check value

/-! ### Statements -/

/-- The module whose names may only be imported first. -/
def featureModule : String := "__future__"

/-- Checks a statement. -/
def statement (label : Label) (line : Nat) (parts : List Used) (s : Setting) : Check Unit :=
  let s := { s with line, role := .load, starry := false }
  match label, parts with
  | .expression, [v] => if isConstant v then return else v.check s
  | .assignment, [targets, v] => do
    v.check s
    Used.checkAll targets.parts (s.target line)
  | .augmentation, [t, v] => augmentation s t v
  | .annotating _, [t, a, v] => annotating s t a v
  | .returning, [v] => returning s v
  | .deletion, _ => Used.checkAll parts { s with role := .delete }
  | .assertion, [c, _] => do
    match c.label, constant? c with
    | .tuple, _ | _, some (.group (_ :: _)) => Check.doubt .assertion
    | _, _ => pure ()
    Used.checkAll parts s
  | .importing module? names, _ =>
    if module? = some featureModule then s.complain .lateFeature else names.forM s.storeName
  | .breaking, _ => do
    if !(← leave s false true s.blocks) then s.complain .breakOutside
  | .continuing, _ => do
    if !(← leave s false true s.blocks) then s.complain .continueOutside
  | .function async name, [decorators, params, result, body] =>
    function s async name decorators params result body
  | .klass name, [decorators, args, body] => klass s name decorators args body
  | .whileLoop, [condition, body, alternative] => whileLoop s condition body alternative
  | .forLoop async, [t, i, body, alternative] => forLoop s async t i body alternative
  | .context async, [items, body] => context s async body items.parts
  | .attempt group, [body, handlers, alternative, final] =>
    attempt s group body handlers alternative final
  | .matching, [subject, cs] => do
    subject.check s
    cases s true cs.parts
  | _, _ => Used.checkAll parts s

/-- Checks a node. A series and a part that is left out stand in the setting of the node around. -/
def node (label : Label) (line : Nat) (parts : List Used) (s : Setting) : Check Unit :=
  match label with
  | .absent | .token _ => return
  | .series | .script | .block => Used.checkAll parts s
  | .expression | .assignment | .augmentation | .annotating _ | .returning | .raising | .outer _ _
  | .deletion | .assertion | .importing _ _ | .pass | .breaking | .continuing | .function _ _
  | .klass _ | .conditional | .whileLoop | .forLoop _ | .context _ | .contextItem | .attempt _
  | .handler _ | .matching | .matchCase => statement label line parts s
  | .valuePattern | .sequencePattern | .mappingPattern _ | .classPattern | .namedPattern _
  | .starPattern _ | .capture _ | .alternatives => pattern label line parts s
  | .name _ | .constant _ | .template | .field | .tuple | .list | .set | .dict | .pair
  | .comprehension _ | .clause _ | .attribute _ | .subscript | .slice | .call | .argument _
  | .starred | .unary _ | .binary _ | .connective | .comparison _ | .choice | .lambda | .yielding
  | .yieldingFrom | .await | .naming | .parameter _ _ => expression label line parts s

/-- The use of a node. -/
def ofNode (label : Label) (line : Nat) (parts : List Used) : Use where
  check := node label line parts
  waits := waitsIn label parts
  yields := yieldsIn label parts

/-- The doubts about how the parts of a script are used, and the first flaw. -/
def ofScript (t : Tree) : List Doubt × Option PlacedFlaw :=
  match (t.noted ofNode).check {} {} with
  | .ok _ f => (f.doubts.reverse, none)
  | .error flaw f => (f.doubts.reverse, some flaw)

end NetPlan.Script.Use
