import Std.Data.HashMap
import NetPlan.Script.Fold

/-!
# Scopes

A script, and each class, function and comprehension in it, has a **scope** of names. What is said
about a name in a scope is marked there in the order of the text: that it is assigned, used, a
parameter, imported, annotated, or the variable of an iteration, and that it is declared to be one
of the script or of a function around. Some marks do not go together.

When all scopes are known, each name that is declared to be one of a function around is looked up
there.
-/

namespace NetPlan.Script

/-- The sorts of scopes. -/
inductive ScopeSort where
  | script
  | klass
  | function
  | comprehension (sort : ComprehensionSort)
deriving DecidableEq, Repr

/-- What has been said about a name in a scope. -/
structure Marks where
  parameter : Bool := false
  assigned : Bool := false
  used : Bool := false
  annotated : Bool := false
  imported : Bool := false
  iterated : Bool := false
  everywhere : Bool := false
  nonlocal : Bool := false
deriving DecidableEq, Repr

namespace Marks

/-- All of two sets of marks. -/
def and (a b : Marks) : Marks where
  parameter := a.parameter || b.parameter
  assigned := a.assigned || b.assigned
  used := a.used || b.used
  annotated := a.annotated || b.annotated
  imported := a.imported || b.imported
  iterated := a.iterated || b.iterated
  everywhere := a.everywhere || b.everywhere
  nonlocal := a.nonlocal || b.nonlocal

/-- The mark of a declaration. -/
def ofOuter : Outer → Marks
  | .everywhere => { everywhere := true }
  | .nonlocal => { nonlocal := true }

/-- Whether a name belongs to the scope. -/
def isBound (m : Marks) : Bool :=
  (m.assigned || m.parameter || m.imported) && !m.everywhere && !m.nonlocal

/-- What keeps a name from being declared to be one from outside. -/
def past? (m : Marks) : Option Past :=
  if m.parameter then some .parameter
  else if m.used then some .used
  else if m.annotated then some .annotated
  else if m.assigned then some .assigned
  else none

end Marks

/-- A scope: its names with their marks, the names that are declared to be from outside with the
lines of that, and the scopes in it, all in order. -/
inductive Scope where
  | mk (sort : ScopeSort) (names : List (String × Marks)) (declared : List (String × Nat))
    (inner : List Scope)

/-- A scope that is not complete, with what is last first. -/
structure OpenScope where
  sort : ScopeSort
  /-- The name of the class that names of its own belong to. -/
  owner? : Option String := none
  marks : Std.HashMap String Marks := {}
  order : List String := []
  declared : List (String × Nat) := []
  inner : List Scope := []
  /-- How many iterables of comprehensions the place is in. -/
  iterables : Nat := 0
  /-- Whether the place is in the variables of an iteration. -/
  iterating : Bool := false

/-- The scopes around a place, from the inside on. The last one is that of the script. -/
structure Scopes where
  top : OpenScope := { sort := .script }
  around : List OpenScope := []

/-- A survey of the names of a script. -/
abbrev Survey := EStateM PlacedFlaw Scopes

/-! ### Open scopes -/

/-- The name that a name of its own has in a class. Such a name starts with two underscores and does
not end with two. -/
def ownName (owner? : Option String) (name : String) : String :=
  match owner? with
  | none => name
  | some owner =>
    let base := owner.toList.dropWhile (· = '_')
    if !name.startsWith "__" || name.endsWith "__" || name.contains '.' || base.isEmpty then name
    else "_" ++ String.ofList base ++ name

namespace OpenScope

/-- The marks of a name. -/
def get (s : OpenScope) (name : String) : Marks :=
  s.marks[name]?.getD {}

/-- Marks a name; the flaw if the marks do not go together. -/
def mark (s : OpenScope) (owner? : Option String) (name : String) (m : Marks) (line : Nat) :
    Except PlacedFlaw OpenScope :=
  let key := ownName owner? name
  let old := s.get key
  let new := old.and m
  let order := if s.marks.contains key then s.order else key :: s.order
  if m.parameter && old.parameter then
    .error { flaw := .scope (.repeatedParameter name), line }
  else if s.iterating && (new.everywhere || new.nonlocal) then
    .error { flaw := .scope (.innerIteration name), line }
  else
    let new := if s.iterating then { new with iterated := true } else new
    .ok { s with marks := s.marks.insert key new, order }

/-- The scope when it is complete. -/
def close (s : OpenScope) : Scope :=
  .mk s.sort (s.order.reverse.map fun name => (name, s.get name)) s.declared.reverse s.inner.reverse

end OpenScope

namespace Survey

/-- Ends a survey at a flaw. -/
def complain {α : Type} (flaw : ScopeFlaw) (line : Nat) : Survey α :=
  throw { flaw := .scope flaw, line }

/-- Goes on with a result, or ends at its flaw. -/
def orComplain {α : Type} : Except PlacedFlaw α → Survey α
  | .ok a => return a
  | .error f => throw f

/-- The innermost scope. -/
def top : Survey OpenScope := do
  return (← get).top

/-- Changes the innermost scope. -/
def modifyTop (f : OpenScope → OpenScope) : Survey Unit :=
  modify fun s => { s with top := f s.top }

/-- Marks a name in the scope of the script as well. -/
def markEverywhere (owner? : Option String) (name : String) : List OpenScope → List OpenScope
  | [] => []
  | [s] =>
    let key := ownName owner? name
    [{ s with
      marks := s.marks.insert key ((s.get key).and { everywhere := true })
      order := if s.marks.contains key then s.order else key :: s.order }]
  | s :: rest => s :: markEverywhere owner? name rest

/-- Marks a name in the innermost scope. -/
def mark (name : String) (m : Marks) (line : Nat) : Survey Unit := do
  let scope ← top
  let marked ← orComplain (scope.mark scope.owner? name m line)
  modifyTop fun _ => marked
  if m.everywhere then
    modify fun s => { s with around := markEverywhere scope.owner? name s.around }

/-- Keeps the line of a declaration. -/
def declare (name : String) (line : Nat) : Survey Unit :=
  modifyTop fun s => { s with declared := (ownName s.owner? name, line) :: s.declared }

/-- Surveys a scope of its own. -/
def within (sort : ScopeSort) (owner? : Option String) (body : Survey Unit) : Survey Unit := do
  modify fun s =>
    { top := { sort, owner?, iterables := s.top.iterables }, around := s.top :: s.around }
  body
  modify fun s =>
    match s.around with
    | [] => s
    | outer :: rest =>
      { top := { outer with inner := s.top.close :: outer.inner }, around := rest }

/-- Whether a scope is that of a comprehension. -/
def isComprehension (s : OpenScope) : Bool :=
  match s.sort with
  | .comprehension _ => true
  | _ => false

/-- Turns down a value for the variable of an iteration. -/
def checkVariable (name : String) (line : Nat) (s : OpenScope) : Survey Unit := do
  if (s.get (ownName s.owner? name)).iterated then complain (.boundIteration name) line

/-- Marks a name that is given a value within a comprehension: it belongs to the function or to the
script around all comprehensions that the place is in. -/
def extend (name : String) (line : Nat) : Survey Unit := do
  let scope ← top
  checkVariable name line scope
  let around := (← get).around
  let inner := around.takeWhile isComprehension
  inner.forM (checkVariable name line)
  match around[inner.length]? with
  | none => pure ()
  | some home =>
    match home.sort with
    | .klass => complain .namedInClass line
    | .function =>
      let outer : Outer := if (home.get name).everywhere then .everywhere else .nonlocal
      mark name (.ofOuter outer) line
      declare name line
      let home ← orComplain (home.mark scope.owner? name { assigned := true } line)
      modify fun s => { s with around := s.around.set inner.length home }
    | .script | .comprehension _ =>
      mark name (.ofOuter .everywhere) line
      declare name line

/-! ### What a node says about names -/

/-- What is surveyed at a tree, given whether something is assigned to it. -/
abbrev Note := Bool → Survey Unit

/-- A tree with what is surveyed. -/
abbrev Part := Noted Note

/-- Surveys a value. -/
def value (p : Part) : Survey Unit :=
  p.note false

/-- Surveys what is assigned to. -/
def target (p : Part) : Survey Unit :=
  p.note true

/-- Surveys values. -/
def values (ps : List Part) : Survey Unit :=
  ps.forM value

/-- The parameters of a sort. -/
def ofSort (sort : ParameterSort) (params : List Part) : List Part :=
  params.filter fun p =>
    match p.label with
    | .parameter s _ => s = sort
    | _ => false

/-- The sorts of parameters in the order in which they are marked. -/
def markOrder : List ParameterSort := [.plain, .keywordOnly, .rest, .namedRest]

/-- The sorts of parameters in the order in which their annotations are surveyed. -/
def annotationOrder : List ParameterSort := [.plain, .rest, .namedRest, .keywordOnly]

/-- The part of each parameter at a place: its annotation or its default. -/
def partsAt (place : Nat) (params : List Part) : List Part :=
  params.flatMap fun p => (p.part? place).toList

/-- Marks the parameters of a function. -/
def markParameters (params : List Part) : Survey Unit :=
  (markOrder.flatMap (ofSort · params)).forM fun p =>
    match p.label with
    | .parameter _ name => mark name { parameter := true } p.line
    | _ => pure ()

/-- Surveys a function with its parameters in a scope of its own. -/
def function (params : List Part) (body : Part) : Survey Unit := do
  let owner? := (← top).owner?
  within .function owner? do
    markParameters params
    value body

/-- Whether an argument is given by its place. -/
def isPositional (p : Part) : Bool :=
  match p.label with
  | .argument _ => false
  | _ => true

/-- Surveys arguments, those with names last. -/
def arguments (ps : List Part) : Survey Unit := do
  values (ps.filter isPositional)
  values (ps.filter (!isPositional ·))

/-- Surveys an iterable. -/
def iterable (p : Part) : Survey Unit := do
  modifyTop fun s => { s with iterables := s.iterables + 1 }
  value p
  modifyTop fun s => { s with iterables := s.iterables - 1 }

/-- Surveys the variables of an iteration. -/
def loopTarget (p : Part) : Survey Unit := do
  modifyTop fun s => { s with iterating := true }
  target p
  modifyTop fun s => { s with iterating := false }

/-- Surveys a clause behind the first one. -/
def clause (p : Part) : Survey Unit :=
  match p.parts with
  | [v, i, conditions] => do
    loopTarget v
    iterable i
    value conditions
  | _ => pure ()

/-- Surveys a comprehension. The first iterable belongs to the scope around. -/
def comprehension (sort : ComprehensionSort) (element : Part) (clauses : List Part) : Survey Unit :=
  match clauses with
  | first :: rest =>
    match first.parts with
    | [v, i, conditions] => do
      iterable i
      let owner? := (← top).owner?
      within (.comprehension sort) owner? do
        loopTarget v
        value conditions
        rest.forM clause
        if element.parts.length = 2 && sort = .dict then values element.parts.reverse
        else value element
    | _ => pure ()
  | [] => pure ()

/-- Surveys a name that is given a value within an expression. -/
def naming (name : Part) (v : Part) (line : Nat) : Survey Unit := do
  let scope ← top
  if 0 < scope.iterables then complain .namedInIterable line
  if isComprehension scope then extend name.text name.line
  value v
  target name

/-- Surveys a `yield`, which no comprehension may hold. -/
def yielding (parts : List Part) (line : Nat) : Survey Unit := do
  values parts
  match (← top).sort with
  | .comprehension sort => complain (.yieldInside sort) line
  | _ => pure ()

/-- Surveys a declaration. -/
def outer (o : Outer) (names : List String) (line : Nat) : Survey Unit :=
  names.forM fun name => do
    let scope ← top
    match (scope.get (ownName scope.owner? name)).past? with
    | some past => complain (.late name o past) line
    | none =>
      mark name (.ofOuter o) line
      declare name line

/-- Surveys an annotation of a name without more. -/
def annotated (plain : Bool) (name : Part) (hasValue : Bool) (line : Nat) : Survey Unit := do
  let scope ← top
  let marks := scope.get (ownName scope.owner? name.text)
  if plain && scope.sort ≠ .script then
    if marks.everywhere then complain (.late name.text .everywhere .annotated) line
    if marks.nonlocal then complain (.late name.text .nonlocal .annotated) line
  if plain then mark name.text { annotated := true, assigned := true } name.line
  else if hasValue then mark name.text { assigned := true } name.line

/-- Whether a tree is a name. -/
def isName (p : Part) : Bool :=
  match p.label with
  | .name _ => true
  | _ => false

/-- Surveys a node. -/
def note (label : Label) (line : Nat) (parts : List Part) (assigned : Bool) : Survey Unit :=
  match label, parts with
  | .name text, _ => do
    mark text (if assigned then { assigned := true } else { used := true }) line
    if !assigned && text = "super" && (← top).sort ≠ .script && (← top).sort ≠ .klass then
      mark "__class__" { used := true } line
  | .series, _ | .tuple, _ | .list, _ | .starred, _ => parts.forM fun p => p.note assigned
  | .dict, _ => do
    values (partsAt 0 parts)
    values (partsAt 1 parts)
  | .comprehension sort, [element, clauses] => comprehension sort element clauses.parts
  | .call, [f, args] => do
    value f
    arguments args.parts
  | .lambda, [params, body] => do
    values (partsAt 1 params.parts)
    function params.parts body
  | .naming, [name, v] => naming name v line
  | .yielding, _ | .yieldingFrom, _ => yielding parts line
  | .assignment, [targets, v] => do
    target targets
    value v
  | .augmentation, [t, v] => do
    target t
    value v
  | .annotating plain, [t, a, v] => do
    if isName t then annotated plain t (!v.isAbsent) line else target t
    value a
    value v
  | .outer o names, _ => outer o names line
  | .deletion, _ => parts.forM target
  | .importing _ names, _ => do
    for name in names do
      if name = "*" then
        if (← top).sort ≠ .script then complain .starImport line
      else mark name { imported := true } line
  | .function _ name, [decorators, params, result, body] => do
    mark name { assigned := true } line
    values (partsAt 1 params.parts)
    values (partsAt 0 (annotationOrder.flatMap (ofSort · params.parts)))
    value result
    value decorators
    function params.parts body
  | .klass name, [decorators, args, body] => do
    mark name { assigned := true } line
    arguments args.parts
    value decorators
    within .klass (some name) (value body)
  | .forLoop _, [t, i, body, alternative] => do
    target t
    values [i, body, alternative]
  | .contextItem, [v, t] => do
    value v
    target t
  | .attempt _, [body, handlers, alternative, final] =>
    values [body, alternative, handlers, final]
  | .handler name?, [type, body] => do
    value type
    match name? with
    | some name => mark name { assigned := true } line
    | none => pure ()
    value body
  | .mappingPattern rest?, _ => do
    values (partsAt 0 parts)
    values (partsAt 1 parts)
    match rest? with
    | some name => mark name { assigned := true } line
    | none => pure ()
  | .starPattern name?, _ | .capture name?, _ => do
    values parts
    match name? with
    | some name => mark name { assigned := true } line
    | none => pure ()
  | _, _ => values parts

/-! ### Looking names up -/

mutual

/-- The first flaw of a scope, given the names of the functions around it; there are none if nothing
is around the scope. -/
def badScope? (outer? : Option (String → Bool)) : Scope → Option PlacedFlaw
  | .mk sort names declared inner =>
    let outer := outer?.getD fun _ => false
    let marks : Std.HashMap String Marks := Std.HashMap.ofList names
    let marksOf (name : String) : Marks := marks[name]?.getD {}
    let within (name : String) : Bool :=
      match sort with
      | .script => false
      | .klass => name = "__class__" || outer name
      | .function | .comprehension _ =>
        (marksOf name).isBound || (outer name && !(marksOf name).everywhere)
    match names.findSome? (badName? outer? declared) with
    | some f => some f
    | none => badScopes? (some within) inner

/-- The first flaw of some scopes. -/
def badScopes? (outer? : Option (String → Bool)) : List Scope → Option PlacedFlaw
  | [] => none
  | s :: rest => (badScope? outer? s).or (badScopes? outer? rest)

/-- The flaw of a name with its marks, if there is one, on the line of the first declaration. -/
def badName? (outer? : Option (String → Bool)) (declared : List (String × Nat))
    (entry : String × Marks) : Option PlacedFlaw :=
  let (name, marks) := entry
  let flawed (f : ScopeFlaw) : Option PlacedFlaw :=
    some { flaw := .scope f, line := (declared.lookup name).getD 0 }
  if !marks.nonlocal then none
  else if marks.everywhere then flawed (.everywhereAndNonlocal name)
  else
    match outer? with
    | none => flawed .topNonlocal
    | some outer => if outer name then none else flawed (.unbound name)

end

end Survey

/-- The flaw of the names of a script, if there is one. -/
def badNames? (t : Tree) : Option PlacedFlaw :=
  match Survey.value (t.noted Survey.note) {} with
  | .ok _ scopes => Survey.badScope? none scopes.top.close
  | .error f _ => some f

end NetPlan.Script
