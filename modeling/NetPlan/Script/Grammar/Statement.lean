import NetPlan.Script.Grammar.Basic

/-!
# Statements

The rules for statements. A simple statement ends with its line or before a semicolon; a compound
one holds a block, which is a row of simple statements or stands on lines of its own.
-/

namespace NetPlan.Script.Grammar

open StatementRule ExpressionRule PatternRule

/-- The name behind a word, if the word is there. -/
def maybeAs : Item := .maybe (row ["as", .name] 1)

/-- The expression of a value, if there is an equal sign. -/
def maybeValue : Item := .maybe (row ["=", assignedValue] 1)

/-- A value of a statement. -/
def value : Item := oneOf [yieldExpr, starExpressions]

/-- The names that a tree stands for. -/
def namesOf (t : Tree) : List String := t.spread.map Tree.text

/-- The name that an imported thing is bound to: the one behind `as`, or else the first part of its
own. -/
def boundName : Build :=
  .by fun line v =>
    let t := if (Build.get v 1).isAbsent then Build.get v 0 else Build.get v 1
    .tree (.node (.name (String.ofList (t.text.toList.takeWhile (· ≠ '.')))) line [])

/-- A definition with decorators in front of it. -/
def decorate : Build :=
  .by fun _ v =>
    match Build.get v 1 with
    | .node label line parts => .tree (.node label line (Build.get v 0 :: parts.tail))

/-! ### Parameters -/

/-- A parameter of another sort. -/
def asParameter (sort : ParameterSort) : Tree → Tree
  | .node (.parameter _ name) line parts => .node (.parameter sort name) line parts
  | t => t

/-- A parameter with a default. -/
def withDefault : Build :=
  .by fun _ v =>
    match Build.get v 0 with
    | .node label line parts => .tree (.node label line (parts.take 1 ++ [Build.get v 1]))

/-- The parameters from a star on: the one behind it, if any, those that are given by name, and the
one behind two stars. -/
def starred (rest? : Option Nat) (named last : Nat) : Build :=
  .by fun line v =>
    let rest := match rest? with
      | some i => [asParameter .rest (Build.get v i)]
      | none => []
    let named := (Build.get v named).spread.map (asParameter .keywordOnly)
    .tree (.node .series line (rest ++ named ++ (Build.get v last).spread))

/-- The items of a function behind its first word: name, parameters, result and body. -/
def functionItems : List Item :=
  [.name, .forced "(", .maybe params, ")", .maybe (row ["->", expression] 1), .forced ":", block]

/-- A definition of a function whose name is the item at a place. -/
def function (async : Bool) (place : Nat) : Build :=
  .by fun line v =>
    .tree (.node (.function async (Build.text v place)) line
      [.absent, Build.get v (place + 2), Build.get v (place + 4), Build.get v (place + 6)])

/-- What ends the parameters in front of a slash: a comma, or the closing bracket ahead. -/
def slashEnds (items : List Item) (build : Build) : List Alternative :=
  [alt (items ++ [.sign ","]) build, alt (items ++ [.ahead ")"]) build]

/-- What ends a parameter: a comma, behind which something may be remarked, or the closing bracket
ahead. -/
def parameterEnds (items : List Item) (build : Build) : List Alternative :=
  [alt (items ++ [.sign ",", .peek]) build, alt (items ++ [.ahead ")"]) build]

/-! ### Blocks that belong together -/

/-- The items of a loop over values behind its first word. -/
def loopItems : List Item :=
  [starTargets, "in", .commit, starExpressions, ":", block, .maybe elseBlock]

/-- The statements that take care of what a block fails with. -/
def attempt (group : Bool) (handlers alternative final : Nat) : Build :=
  .make (.attempt group) [2, handlers, alternative, final]

/-- The production of a rule for statements. -/
def statementProduction : StatementRule → Production
  | script => { alternatives := [alt [.maybe statements, .finish] (.collect .script [0])] }
  | statements => { alternatives := [alt [.some statement] (.collect .series [0])] }
  | statement =>
    { alternatives := [alt [compoundStatement] (.collect .series [0]), only simpleStatements] }
  | simpleStatements =>
    { alternatives :=
        [alt [simpleStatement, .notAhead ";", .newline] (.collect .series [0]),
          alt [.separated ";" simpleStatement, .maybe ";", .newline] (.pick 0)] }
  | simpleStatement =>
    { kept := true
      alternatives :=
        [only assignment, alt [starExpressions] (.make .expression [0]),
          alt [.ahead "return", returnStatement] (.pick 1),
          alt [.ahead (oneOf ["import", "from"]), importStatement] (.pick 1),
          alt [.ahead "raise", raiseStatement] (.pick 1), alt ["pass"] (.make .pass []),
          alt [.ahead "del", deleteStatement] (.pick 1),
          alt [.ahead "yield", yieldStatement] (.pick 1),
          alt [.ahead "assert", assertStatement] (.pick 1), alt ["break"] (.make .breaking []),
          alt ["continue"] (.make .continuing []),
          alt [.ahead "global", globalStatement] (.pick 1),
          alt [.ahead "nonlocal", nonlocalStatement] (.pick 1)] }
  | compoundStatement =>
    { alternatives :=
        [alt [.ahead (oneOf ["def", "@", "async"]), functionDefinition] (.pick 1),
          alt [.ahead "if", ifStatement] (.pick 1),
          alt [.ahead (oneOf ["class", "@"]), classDefinition] (.pick 1),
          alt [.ahead (oneOf ["with", "async"]), withStatement] (.pick 1),
          alt [.ahead (oneOf ["for", "async"]), forStatement] (.pick 1),
          alt [.ahead "try", tryStatement] (.pick 1),
          alt [.ahead "while", whileStatement] (.pick 1), only matchStatement] }
  | assignment =>
    { alternatives :=
        [alt [.name, ":", expression, maybeValue] (.make (.annotating true) [0, 2, 3]),
          alt [.group [alt ["(", singleTarget, ")"] (.pick 1), only singlePartTarget], ":",
            expression, maybeValue] (.make (.annotating false) [0, 2, 3]),
          alt [.some (row [starTargets, "="] 0), value, .notAhead "="]
            (.make .assignment [0, 1]),
          alt [singleTarget, augmentingSign, .commit, value] (.make .augmentation [0, 3]),
          mistake .badAssignment] }
  | assignedValue => { alternatives := [only yieldExpr, only starExpressions] }
  | augmentingSign =>
    { alternatives := ["+=", "-=", "*=", "@=", "/=", "%=", "&=", "|=", "^=", "<<=", ">>=", "**=",
        "//="].map fun sign => only (.sign sign) }
  | returnStatement =>
    { alternatives := [alt ["return", .maybe starExpressions] (.make .returning [1])] }
  | raiseStatement =>
    { alternatives :=
        [alt ["raise", expression, .maybe (row ["from", expression] 1)] (.make .raising [1, 2]),
          alt ["raise"] (.make .raising [])] }
  | globalStatement =>
    { alternatives := [alt ["global", .separated "," .name]
        (.makeBy (fun v => .outer .everywhere (namesOf (Build.get v 1))) [])] }
  | nonlocalStatement =>
    { alternatives := [alt ["nonlocal", .separated "," .name]
        (.makeBy (fun v => .outer .nonlocal (namesOf (Build.get v 1))) [])] }
  | deleteStatement =>
    { alternatives :=
        [alt ["del", deleteTargets, .ahead (oneOf [";", .newline])] (.collect .deletion [1]),
          mistake .badDelete] }
  | yieldStatement => { alternatives := [alt [yieldExpr] (.make .expression [0])] }
  | assertStatement =>
    { alternatives := [alt ["assert", expression, .maybe (row [",", expression] 1)]
        (.make .assertion [1, 2])] }
  | importStatement => { alternatives := [only importName, only importFrom] }
  | importName =>
    { alternatives := [alt ["import", dottedNames]
        (.makeBy (fun v => .importing none (namesOf (Build.get v 1))) [])] }
  | importFrom =>
    { alternatives :=
        [alt ["from", .many (oneOf [".", "..."]), dottedName, "import", importedTargets]
          (.makeBy (fun v =>
            .importing (some (Build.text v 2)) (namesOf (Build.get v 4))) []),
          alt ["from", .some (oneOf [".", "..."]), "import", importedTargets]
            (.makeBy (fun v => .importing (some "") (namesOf (Build.get v 3))) [])] }
  | importedTargets =>
    { alternatives :=
        [alt ["(", importedNames, .maybe ",", ")"] (.pick 1),
          alt [importedNames, .notAhead ","] (.pick 0), alt ["*"] (.collect .series [0]),
          mistake .badImportTargets] }
  | importedNames => { alternatives := [only (.separated "," importedName)] }
  | importedName => { alternatives := [alt [.name, maybeAs] boundName] }
  | dottedNames => { alternatives := [only (.separated "," dottedAsName)] }
  | dottedAsName => { alternatives := [alt [dottedName, maybeAs] boundName] }
  | dottedName =>
    { recursive := true
      alternatives :=
        [alt [dottedName, ".", .name]
          (.makeBy (fun v => .name (Build.text v 0 ++ "." ++ Build.text v 2)) []),
          only .name] }
  | block =>
    { kept := true
      alternatives :=
        [alt [.newline, .indent, statements, .dedent] (.pick 2), only simpleStatements,
          mistake .badBlock] }
  | decorators =>
    { alternatives := [only (.some (row ["@", namedExpression, .newline] 1))] }
  | classDefinition =>
    { alternatives := [alt [decorators, plainClass] decorate, only plainClass] }
  | plainClass =>
    { alternatives :=
        [mistake .badClass,
          alt ["class", .name, .maybe (row ["(", .maybe arguments, ")"] 1), ":", block]
            (.by fun line v => .tree (.node (.klass (Build.text v 1)) line
              [.absent, Build.get v 2, Build.get v 4]))] }
  | functionDefinition =>
    { alternatives := [alt [decorators, plainFunction] decorate, only plainFunction] }
  | plainFunction =>
    { alternatives :=
        [mistake .badFunction, alt ("def" :: functionItems) (function false 1),
          alt ("async" :: "def" :: functionItems) (function true 2)] }
  | params => { alternatives := [mistake .badParameters, only parameters] }
  | parameters =>
    { alternatives :=
        [alt [slashNoDefault, .many paramNoDefault, .many paramWithDefault, .maybe starEtc]
          (.collect .series [0, 1, 2, 3]),
          alt [slashWithDefault, .many paramWithDefault, .maybe starEtc]
            (.collect .series [0, 1, 2]),
          alt [.some paramNoDefault, .many paramWithDefault, .maybe starEtc]
            (.collect .series [0, 1, 2]),
          alt [.some paramWithDefault, .maybe starEtc] (.collect .series [0, 1]),
          alt [starEtc] (.collect .series [0])] }
  | slashNoDefault =>
    { alternatives := slashEnds [.some paramNoDefault, "/"] (.pick 0) }
  | slashWithDefault =>
    { alternatives := slashEnds [.many paramNoDefault, .some paramWithDefault, "/"]
        (.collect .series [0, 1]) }
  | starEtc =>
    { alternatives :=
        [mistake .badStarEtc,
          alt ["*", paramNoDefault, .many paramMaybeDefault, .maybe doubleStarred]
            (starred (some 1) 2 3),
          alt ["*", paramNoDefaultStarred, .many paramMaybeDefault, .maybe doubleStarred]
            (starred (some 1) 2 3),
          alt ["*", ",", .some paramMaybeDefault, .maybe doubleStarred] (starred none 2 3),
          only doubleStarred] }
  | doubleStarred =>
    { alternatives :=
        [mistake .badDoubleStarred,
          alt ["**", paramNoDefault]
            (.by fun _ v => .tree (asParameter .namedRest (Build.get v 1)))] }
  | paramNoDefault => { alternatives := parameterEnds [param] (.pick 0) }
  | paramNoDefaultStarred => { alternatives := parameterEnds [paramStarred] (.pick 0) }
  | paramWithDefault => { alternatives := parameterEnds [param, defaultValue] withDefault }
  | paramMaybeDefault =>
    { alternatives := parameterEnds [param, .maybe defaultValue] withDefault }
  | param =>
    { alternatives := [alt [.name, .maybe annotated]
        (.makeBy (fun v => .parameter .plain (Build.text v 0)) [1])] }
  | paramStarred =>
    { alternatives := [alt [.name, starAnnotated]
        (.makeBy (fun v => .parameter .plain (Build.text v 0)) [1])] }
  | annotated => { alternatives := [alt [":", expression] (.pick 1)] }
  | starAnnotated => { alternatives := [alt [":", starExpression] (.pick 1)] }
  | defaultValue =>
    { alternatives := [alt ["=", expression] (.pick 1), mistake .badDefault] }
  | ifStatement =>
    { alternatives :=
        [mistake .badIf,
          alt ["if", namedExpression, ":", block, elifStatement]
            (.make .conditional [1, 3, 4]),
          alt ["if", namedExpression, ":", block, .maybe elseBlock]
            (.make .conditional [1, 3, 4])] }
  | elifStatement =>
    { alternatives :=
        [mistake .badElif,
          alt ["elif", namedExpression, ":", block, elifStatement]
            (.make .conditional [1, 3, 4]),
          alt ["elif", namedExpression, ":", block, .maybe elseBlock]
            (.make .conditional [1, 3, 4])] }
  | elseBlock =>
    { alternatives := [mistake .badElse, alt ["else", .forced ":", block] (.pick 2)] }
  | whileStatement =>
    { alternatives :=
        [mistake .badWhile,
          alt ["while", namedExpression, ":", block, .maybe elseBlock]
            (.make .whileLoop [1, 3, 4])] }
  | forStatement =>
    { alternatives :=
        [mistake .badFor, alt ("for" :: loopItems) (.make (.forLoop false) [1, 4, 6, 7]),
          alt ("async" :: "for" :: loopItems) (.make (.forLoop true) [2, 5, 7, 8]),
          mistake .badForTarget] }
  | withStatement =>
    { alternatives :=
        [mistake .badWithBlock,
          alt ["with", "(", .separated "," withItem, .maybe ",", ")", ":", block]
            (.make (.context false) [2, 6]),
          alt ["with", .separated "," withItem, ":", block] (.make (.context false) [1, 3]),
          alt ["async", "with", "(", .separated "," withItem, .maybe ",", ")", ":", block]
            (.make (.context true) [3, 7]),
          alt ["async", "with", .separated "," withItem, ":", block]
            (.make (.context true) [2, 4]),
          mistake .badWith] }
  | withItem =>
    { alternatives :=
        [alt [expression, "as", starTarget, .ahead (oneOf [",", ")", ":"])]
          (.make .contextItem [0, 2]),
          mistake .badWithItem, alt [expression] (.make .contextItem [0, 1])] }
  | tryStatement =>
    { alternatives :=
        [mistake .badTry,
          alt ["try", .forced ":", block, finallyBlock]
            (.by fun line v => .tree (.node (.attempt false) line
              [Build.get v 2, .absent, .absent, Build.get v 3])),
          alt ["try", .forced ":", block, .some exceptBlock, .maybe elseBlock,
            .maybe finallyBlock] (attempt false 3 4 5),
          alt ["try", .forced ":", block, .some exceptStarBlock, .maybe elseBlock,
            .maybe finallyBlock] (attempt true 3 4 5)] }
  | exceptBlock =>
    { alternatives :=
        [mistake .badExceptBlock,
          alt ["except", expression, maybeAs, ":", block]
            (.makeBy (fun v => .handler (handlerName (Build.get v 2))) [1, 4]),
          alt ["except", ":", block]
            (.by fun line v => .tree (.node (.handler none) line [.absent, Build.get v 2])),
          mistake .badExcept] }
  | exceptStarBlock =>
    { alternatives :=
        [mistake .badExceptStarBlock,
          alt ["except", "*", expression, maybeAs, ":", block]
            (.makeBy (fun v => .handler (handlerName (Build.get v 3))) [2, 5]),
          mistake .badExcept] }
  | finallyBlock =>
    { alternatives := [mistake .badFinally, alt ["finally", .forced ":", block] (.pick 2)] }
where
  /-- The name of what is handled. -/
  handlerName (t : Tree) : Option String := if t.isAbsent then none else some t.text

end NetPlan.Script.Grammar
