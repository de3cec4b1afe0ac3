import NetPlan.Script.Grammar.Basic

/-!
# Expressions

The rules for expressions, from those that bind weakest to those that bind strongest, and for what
values can be assigned to.
-/

namespace NetPlan.Script.Grammar

open StatementRule ExpressionRule

/-- The node of an operation between two operands around a sign. -/
def between (sign : String) : Build := .make (.binary sign) [0, 2]

/-- The alternatives of an operator that binds to the left. -/
def leftward (self operand : ExpressionRule) (signs : List String) : List Alternative :=
  signs.map (fun sign => alt [self, .sign sign, operand] (between sign)) ++ [only operand]

/-- A chain of operands around a word. -/
def chain (operand : ExpressionRule) (word : String) : List Alternative :=
  [alt [operand, .some (row [.sign word, operand] 1)] (.collect .connective [0, 1]),
    only operand]

/-- One item, or a tuple of items behind commas. -/
def oneOrTuple (item : ExpressionRule) : List Alternative :=
  [alt [item, .some (row [",", item] 1), .maybe ","] (.collect .tuple [0, 1]),
    alt [item, ","] (.make .tuple [0]), only item]

/-- A relation, for now as a node of its own, and its right operand. -/
def relation (words : List Item) (r : Relation) (place : Nat) : Production :=
  { alternatives := [alt (words ++ [↑bitOr]) (.make (.comparison [r]) [place])] }

/-- A comparison from its left operand and its relations. -/
def compare : Build :=
  .by fun line v =>
    let pairs := (Build.get v 1).spread
    let relations := pairs.flatMap fun t =>
      match t.label with
      | .comparison rs => rs
      | _ => []
    .tree (.node (.comparison relations) line
      [Build.get v 0, .node .series line (pairs.flatMap Tree.parts)])

/-- An expression that is no condition of an assignment. -/
def plainExpression : Item := row [expression, .notAhead ":="] 0

/-- An element that names may be given to. -/
def maybeNamed : Item := .group [only assignmentExpression, alt [expression, .notAhead ":="] (.pick 0)]

/-- What is called with a series of arguments. -/
def callWith (arguments : Nat) : Build :=
  .by fun line v =>
    .tree (.node .call line [Build.get v 0, .node .series line (Build.get v arguments).spread])

/-- A call with a generator as its argument. -/
def callGenerator : Build :=
  .by fun line v =>
    .tree (.node .call line [Build.get v 0, .node .series line [Build.get v 1]])

/-- The parts that come behind what has them. -/
def partOf (final : Item) (self : ExpressionRule) : List Alternative :=
  [alt [self, ".", .name, final] (.makeBy (fun v => .attribute (Build.text v 2)) [0]),
    alt [self, "[", slices, "]", final] (.make .subscript [0, 2])]

/-- The items of a clause behind its first word. -/
def clauseItems : List Item :=
  [starTargets, "in", .commit, disjunction, .many (row ["if", disjunction] 1)]

/-- A comprehension in brackets. -/
def comprehended (opening closing : String) (element : Item) (sort : ComprehensionSort) :
    Alternative :=
  alt [.sign opening, element, forIfClauses, .sign closing] (.make (.comprehension sort) [1, 2])

/-- What ends a parameter of a lambda. -/
def lambdaEnds (items : List Item) (build : Build) : List Alternative :=
  [alt (items ++ [.sign ","]) build, alt (items ++ [.ahead ":"]) build]

/-- A parameter of a lambda with a default. -/
def lambdaDefault : Build :=
  .by fun _ v =>
    match Build.get v 0 with
    | .node label line parts => .tree (.node label line (parts.take 1 ++ [Build.get v 1]))

/-- A parameter of a lambda of another sort. -/
def lambdaSort (sort : ParameterSort) : Tree → Tree
  | .node (.parameter _ name) line parts => .node (.parameter sort name) line parts
  | t => t

/-- The parameters of a lambda from a star on. -/
def lambdaStarred (rest? : Option Nat) (named last : Nat) : Build :=
  .by fun line v =>
    let rest := match rest? with
      | some i => [lambdaSort .rest (Build.get v i)]
      | none => []
    let named := (Build.get v named).spread.map (lambdaSort .keywordOnly)
    .tree (.node .series line (rest ++ named ++ (Build.get v last).spread))

/-- An argument with a name. -/
def namedArgument : Alternative :=
  alt [.name, "=", expression] (.makeBy (fun v => .argument (some (Build.text v 0))) [2])

/-- The production of a rule for expressions. -/
def expressionProduction : ExpressionRule → Production
  | fieldExpression => { alternatives := [only starExpressions] }
  | expressions => { alternatives := oneOrTuple expression }
  | expression =>
    { kept := true
      alternatives :=
        [mistake .badExpression, mistake .legacyStatement,
          alt [disjunction, "if", disjunction, "else", expression] (.make .choice [2, 0, 4]),
          only disjunction, only lambdaDefinition] }
  | yieldExpr =>
    { alternatives :=
        [alt ["yield", "from", expression] (.make .yieldingFrom [2]),
          alt ["yield", .maybe starExpressions] (.make .yielding [1])] }
  | starExpressions => { alternatives := oneOrTuple starExpression }
  | starExpression =>
    { kept := true
      alternatives := [alt ["*", bitOr] (.make .starred [1]), only expression] }
  | starNamedExpressions =>
    { alternatives := [alt [.separated "," starNamedExpression, .maybe ","] (.pick 0)] }
  | starNamedExpression =>
    { alternatives := [alt ["*", bitOr] (.make .starred [1]), only namedExpression] }
  | assignmentExpression =>
    { alternatives := [alt [.name, ":=", .commit, expression] (.make .naming [0, 3])] }
  | namedExpression =>
    { alternatives :=
        [only assignmentExpression, mistake .badNamedExpression,
          alt [expression, .notAhead ":="] (.pick 0)] }
  | disjunction => { kept := true, alternatives := chain conjunction "or" }
  | conjunction => { kept := true, alternatives := chain inversion "and" }
  | inversion =>
    { kept := true
      alternatives := [alt ["not", inversion] (.make (.unary "not") [1]), only comparison] }
  | comparison =>
    { alternatives := [alt [bitOr, .some comparedPair] compare, only bitOr] }
  | comparedPair =>
    { alternatives := [equalPair, unequalPair, atMostPair, lessPair, atLeastPair, greaterPair,
        notInPair, inPair, isNotPair, isPair].map fun (r : ExpressionRule) => only r }
  | equalPair => relation ["=="] .other 1
  | unequalPair => relation [.group [only "!="]] .other 1
  | atMostPair => relation ["<="] .other 1
  | lessPair => relation ["<"] .other 1
  | atLeastPair => relation [">="] .other 1
  | greaterPair => relation [">"] .other 1
  | notInPair => relation ["not", "in"] .absence 2
  | inPair => relation ["in"] .membership 1
  | isNotPair => relation ["is", "not"] .difference 2
  | isPair => relation ["is"] .identity 1
  | bitOr => { recursive := true, alternatives := leftward bitOr bitXor ["|"] }
  | bitXor => { recursive := true, alternatives := leftward bitXor bitAnd ["^"] }
  | bitAnd => { recursive := true, alternatives := leftward bitAnd shift ["&"] }
  | shift => { recursive := true, alternatives := leftward shift sum ["<<", ">>"] }
  | sum => { recursive := true, alternatives := leftward sum term ["+", "-"] }
  | term => { recursive := true, alternatives := leftward term factor ["*", "/", "//", "%", "@"] }
  | factor =>
    { kept := true
      alternatives := (["+", "-", "~"].map fun sign =>
        alt [.sign sign, factor] (.make (.unary sign) [1])) ++ [only power] }
  | power =>
    { alternatives := [alt [awaitPrimary, "**", factor] (between "**"), only awaitPrimary] }
  | awaitPrimary =>
    { kept := true
      alternatives := [alt ["await", primary] (.make .await [1]), only primary] }
  | primary =>
    { recursive := true
      alternatives :=
        [alt [primary, ".", .name] (.makeBy (fun v => .attribute (Build.text v 2)) [0]),
          alt [primary, generatorExpression] callGenerator,
          alt [primary, "(", .maybe arguments, ")"] (callWith 2),
          alt [primary, "[", slices, "]"] (.make .subscript [0, 2]), only atom] }
  | slices =>
    { alternatives :=
        [alt [slice, .notAhead ","] (.pick 0),
          alt [.separated "," (oneOf [slice, starredExpression]), .maybe ","]
            (.collect .tuple [0])] }
  | slice =>
    { alternatives :=
        [alt [.maybe expression, ":", .maybe expression,
            .maybe (row [":", .maybe expression] 1)] (.make .slice [0, 2, 3]),
          only namedExpression] }
  | atom =>
    { alternatives :=
        [only .name, alt ["True"] (.make (.constant (.flag true)) []),
          alt ["False"] (.make (.constant (.flag false)) []),
          alt ["None"] (.make (.constant .nothing) []),
          alt [.ahead .literal, literals] (.pick 1), only .number,
          alt [.ahead "(", oneOf [tupleDisplay, group, generatorExpression]] (.pick 1),
          alt [.ahead "[", oneOf [listDisplay, listComprehension]] (.pick 1),
          alt [.ahead "\x7b", oneOf [dictDisplay, setDisplay, dictComprehension,
            setComprehension]] (.pick 1),
          alt ["..."] (.make (.constant .dots) [])] }
  | group =>
    { alternatives :=
        [alt ["(", oneOf [yieldExpr, namedExpression], ")"] (.pick 1), mistake .badGroup] }
  | lambdaDefinition =>
    { alternatives := [alt ["lambda", .maybe lambdaParams, ":", expression]
        (.make .lambda [1, 3])] }
  | lambdaParams => { alternatives := [mistake .badLambdaParameters, only lambdaParameters] }
  | lambdaParameters =>
    { alternatives :=
        [alt [lambdaSlashNoDefault, .many lambdaParamNoDefault, .many lambdaParamWithDefault,
            .maybe lambdaStarEtc] (.collect .series [0, 1, 2, 3]),
          alt [lambdaSlashWithDefault, .many lambdaParamWithDefault, .maybe lambdaStarEtc]
            (.collect .series [0, 1, 2]),
          alt [.some lambdaParamNoDefault, .many lambdaParamWithDefault, .maybe lambdaStarEtc]
            (.collect .series [0, 1, 2]),
          alt [.some lambdaParamWithDefault, .maybe lambdaStarEtc]
            (.collect .series [0, 1]),
          alt [lambdaStarEtc] (.collect .series [0])] }
  | lambdaSlashNoDefault =>
    { alternatives := lambdaEnds [.some lambdaParamNoDefault, "/"] (.pick 0) }
  | lambdaSlashWithDefault =>
    { alternatives := lambdaEnds [.many lambdaParamNoDefault, .some lambdaParamWithDefault, "/"]
        (.collect .series [0, 1]) }
  | lambdaStarEtc =>
    { alternatives :=
        [mistake .badLambdaStarEtc,
          alt ["*", lambdaParamNoDefault, .many lambdaParamMaybeDefault,
            .maybe lambdaDoubleStarred] (lambdaStarred (some 1) 2 3),
          alt ["*", ",", .some lambdaParamMaybeDefault, .maybe lambdaDoubleStarred]
            (lambdaStarred none 2 3),
          only lambdaDoubleStarred] }
  | lambdaDoubleStarred =>
    { alternatives :=
        [mistake .badLambdaDoubleStarred,
          alt ["**", lambdaParamNoDefault]
            (.by fun _ v => .tree (lambdaSort .namedRest (Build.get v 1)))] }
  | lambdaParamNoDefault => { alternatives := lambdaEnds [lambdaParam] (.pick 0) }
  | lambdaParamWithDefault =>
    { alternatives := lambdaEnds [lambdaParam, defaultValue] lambdaDefault }
  | lambdaParamMaybeDefault =>
    { alternatives := lambdaEnds [lambdaParam, .maybe defaultValue] lambdaDefault }
  | lambdaParam =>
    { alternatives := [alt [.name]
        (.by fun line v => .tree (.node (.parameter .plain (Build.text v 0)) line [.absent]))] }
  | literals => { kept := true, alternatives := [alt [.some .literal] .literals] }
  | listDisplay =>
    { alternatives := [alt ["[", .maybe starNamedExpressions, "]"] (.collect .list [1])] }
  | tupleDisplay =>
    { alternatives := [alt ["(", .maybe (.group [alt [starNamedExpression, ",",
        .maybe starNamedExpressions] (.collect .series [0, 2])]), ")"] (.collect .tuple [1])] }
  | setDisplay => { alternatives := [alt ["\x7b", starNamedExpressions, "\x7d"]
      (.collect .set [1])] }
  | dictDisplay =>
    { alternatives :=
        [alt ["\x7b", .maybe dictPairs, "\x7d"] (.collect .dict [1]),
          alt ["\x7b", .rule (.mistake .badDictPairs), "\x7d"] (.pick 1)] }
  | dictPairs => { alternatives := [alt [.separated "," dictPair, .maybe ","] (.pick 0)] }
  | dictPair =>
    { alternatives :=
        [alt ["**", bitOr] (.by fun line v => .tree (.node .pair line [.absent, Build.get v 1])),
          only keyValue] }
  | keyValue => { alternatives := [alt [expression, ":", expression] (.make .pair [0, 2])] }
  | forIfClauses => { alternatives := [only (.some forIfClause)] }
  | forIfClause =>
    { alternatives :=
        [alt ("async" :: "for" :: clauseItems) (.make (.clause true) [2, 5, 6]),
          alt ("for" :: clauseItems) (.make (.clause false) [1, 4, 5]), mistake .badForTarget] }
  | listComprehension =>
    { alternatives :=
        [comprehended "[" "]" namedExpression .list, mistake .badComprehension] }
  | setComprehension =>
    { alternatives :=
        [comprehended "\x7b" "\x7d" namedExpression .set, mistake .badComprehension] }
  | generatorExpression =>
    { alternatives := [comprehended "(" ")" maybeNamed .generator, mistake .badComprehension] }
  | dictComprehension =>
    { alternatives :=
        [comprehended "\x7b" "\x7d" keyValue .dict, mistake .badDictComprehension] }
  | arguments =>
    { kept := true
      alternatives :=
        [alt [args, .maybe ",", .ahead ")"] (.pick 0), mistake .badArguments] }
  | args =>
    { alternatives :=
        [alt [.separated "," (.group [only starredExpression,
            alt [maybeNamed, .notAhead "="] (.pick 0)]), .maybe (row [",", namedArgs] 1)]
            (.collect .series [0, 1]),
          only namedArgs] }
  | namedArgs =>
    { alternatives :=
        [alt [.separated "," namedOrStarred, ",", .separated "," namedOrDoubleStarred]
            (.collect .series [0, 2]),
          only (.separated "," namedOrStarred), only (.separated "," namedOrDoubleStarred)] }
  | starredExpression => { alternatives := [alt ["*", expression] (.make .starred [1])] }
  | namedOrStarred =>
    { alternatives := [mistake .badNamedArgument, namedArgument, only starredExpression] }
  | namedOrDoubleStarred =>
    { alternatives :=
        [mistake .badNamedArgument, namedArgument,
          alt ["**", expression] (.make (.argument none) [1])] }
  | starTargets =>
    { alternatives :=
        [alt [starTarget, .notAhead ","] (.pick 0),
          alt [starTarget, .many (row [",", starTarget] 1), .maybe ","]
            (.collect .tuple [0, 1])] }
  | starTargetsList =>
    { alternatives := [alt [.separated "," starTarget, .maybe ","] (.pick 0)] }
  | starTargetsTuple =>
    { alternatives :=
        [alt [starTarget, .some (row [",", starTarget] 1), .maybe ","]
          (.collect .series [0, 1]),
          alt [starTarget, ","] (.collect .series [0])] }
  | starTarget =>
    { kept := true
      alternatives :=
        [alt ["*", .group [alt [.notAhead "*", starTarget] (.pick 1)]] (.make .starred [1]),
          only starAtomTarget] }
  | starAtomTarget =>
    { kept := true
      alternatives := partOf (.notAhead targetAhead) targetPrimary ++ [only starAtom] }
  | starAtom =>
    { alternatives :=
        [only .name, alt ["(", starAtomTarget, ")"] (.pick 1),
          alt ["(", .maybe starTargetsTuple, ")"] (.collect .tuple [1]),
          alt ["[", .maybe starTargetsList, "]"] (.collect .list [1])] }
  | singleTarget =>
    { alternatives :=
        [only singlePartTarget, only .name, alt ["(", singleTarget, ")"] (.pick 1)] }
  | singlePartTarget => { alternatives := partOf (.notAhead targetAhead) targetPrimary }
  | targetPrimary =>
    { recursive := true
      alternatives :=
        partOf (.ahead targetAhead) targetPrimary ++
          [alt [targetPrimary, generatorExpression, .ahead targetAhead] callGenerator,
            alt [targetPrimary, "(", .maybe arguments, ")", .ahead targetAhead] (callWith 2),
            alt [atom, .ahead targetAhead] (.pick 0)] }
  | targetAhead => { alternatives := [only "(", only "[", only "."] }
  | deleteTargets =>
    { alternatives := [alt [.separated "," deleteTarget, .maybe ","] (.pick 0)] }
  | deleteTarget =>
    { kept := true
      alternatives := partOf (.notAhead targetAhead) targetPrimary ++ [only deleteAtom] }
  | deleteAtom =>
    { alternatives :=
        [only .name, alt ["(", deleteTarget, ")"] (.pick 1),
          alt ["(", .maybe deleteTargets, ")"] (.collect .tuple [1]),
          alt ["[", .maybe deleteTargets, "]"] (.collect .list [1])] }
  | shelteredExpression =>
    { sheltered := true
      alternatives :=
        [alt [disjunction, "if", disjunction, "else", expression] (.make .choice [2, 0, 4]),
          only disjunction, only lambdaDefinition] }

end NetPlan.Script.Grammar
