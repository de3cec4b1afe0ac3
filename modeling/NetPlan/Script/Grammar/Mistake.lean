import NetPlan.Script.Grammar.Basic

/-!
# Mistakes

The rules for mistakes that are common enough for a wording of their own. They are tried in front of
the rules that they belong to, and what they match is a flaw.
-/

namespace NetPlan.Script.Grammar

open StatementRule ExpressionRule PatternRule

/-- What a target is for. -/
inductive TargetUse where
  | plain
  | loop
  | deletion
deriving DecidableEq, Repr

mutual

/-- The part of an expression that keeps it from being a target. Lists and tuples are looked into.
In a loop, what stands left of `in` is the target. -/
def badTarget? (use : TargetUse) : Tree → Option Tree
  | .node label line parts =>
    match label with
    | .list | .tuple => badTargets? use parts
    | .starred =>
      if use = .deletion then some (.node label line parts) else badTargets? use parts
    | .comparison relations =>
      if use = .loop then
        if relations.head? = some .membership then
          match parts with
          | left :: _ => badTarget? use left
          | [] => none
        else none
      else some (.node label line parts)
    | .name _ | .subscript | .attribute _ => none
    | _ => some (.node label line parts)

/-- The first such part of some expressions. -/
def badTargets? (use : TargetUse) : List Tree → Option Tree
  | [] => none
  | t :: rest => (badTarget? use t).or (badTargets? use rest)

end

/-- The flaw of an item that is no target. -/
def targetFlaw (i : Nat) (use : TargetUse) : Build :=
  .by fun _ v =>
    match badTarget? use (Build.get v i) with
    | some t =>
      .flaw (if use = .deletion then .deletion t.what else .assignment t.what) (some t.line)
    | none => .refusal

/-- The words that were statements and are functions now. -/
def legacyWords : List String :=
  ["print", "exec"]

/-- Whether a tree is a name that was a statement. -/
def isLegacy (t : Tree) : Bool :=
  match t.label with
  | .name text => legacyWords.contains text
  | _ => false

/-- Whether an argument is given by its place. -/
def isPositional (t : Tree) : Bool :=
  match t.label with
  | .argument _ => false
  | _ => true

/-- The flaw of a clause behind several arguments. -/
def bareGenerator : Build :=
  .by fun _ v =>
    match ((Build.get v 0).spread.filter isPositional).reverse with
    | last :: _ :: _ => .flaw .bareGenerator (some last.line)
    | _ => .refusal

/-- The flaw of an argument without a name behind one with a name. -/
def argumentOrder : Build :=
  .by fun _ v =>
    let unpacked := (Build.get v 0).spread.any fun t =>
      match t.label with
      | .argument none => true
      | _ => false
    .flaw (.argumentOrder unpacked) none

/-- A mistake in a block that is missing behind some items. -/
def noBlock (items : List Item) (what : String) (i : Nat) : Alternative :=
  alt (items ++ [.sign ":", .newline, .notAhead .indent]) (.missingBlock what i)

/-- A mistake in a colon that is missing behind some items. -/
def noColon (items : List Item) : Alternative :=
  alt (items ++ [.newline]) (.flaw (.expected ":"))

/-- The items of a `with` statement up to its colon, without brackets and with them. -/
def withItems : List (List Item) :=
  let target : Item := .maybe (row ["as", starTarget] 1)
  [[.maybe "async", "with", .separated "," (row [expression, target] 0)],
    [.maybe "async", "with", "(", .separated "," (row [expressions, target] 0), .maybe ",", ")"]]

/-- An exception type and its name. -/
def exceptionItems : List Item :=
  [expression, .maybe (row ["as", .name] 1)]

/-- The rules that parameters of one sort are made of. -/
structure ParameterRules where
  slashNoDefault : Item
  slashWithDefault : Item
  noDefault : Item
  withDefault : Item
  maybeDefault : Item
  one : Item
  helper : Item
  /-- What may stand between brackets that do not belong there. -/
  grouped : Item
  forLambda : Bool
  /-- What ends the parameters. -/
  final : Item

/-- The rules for the parameters of functions. -/
def functionRules : ParameterRules where
  slashNoDefault := slashNoDefault
  slashWithDefault := slashWithDefault
  noDefault := paramNoDefault
  withDefault := paramWithDefault
  maybeDefault := paramMaybeDefault
  one := param
  helper := .rule (.mistake .badParametersHelper)
  grouped := .some paramNoDefault
  forLambda := false
  final := ")"

/-- The rules for the parameters of lambdas. -/
def lambdaRules : ParameterRules where
  slashNoDefault := lambdaSlashNoDefault
  slashWithDefault := lambdaSlashWithDefault
  noDefault := lambdaParamNoDefault
  withDefault := lambdaParamWithDefault
  maybeDefault := lambdaParamMaybeDefault
  one := lambdaParam
  helper := .rule (.mistake .badLambdaParametersHelper)
  grouped := .separated "," lambdaParam
  forLambda := true
  final := ":"

namespace ParameterRules

/-- The mistakes in parameters. -/
def mistakes (r : ParameterRules) : List Alternative :=
  let slashes := oneOf [r.slashNoDefault, r.slashWithDefault]
  [alt [.many r.noDefault, r.helper, r.noDefault] (.flawAt 2 .defaultOrder),
    alt [.many r.noDefault, "(", r.grouped, .maybe ",", ")"]
      (.flawAt 1 (.groupedParameters r.forLambda)),
    alt ["/", ","] (.flawAt 0 .firstSlash),
    alt [slashes, .many r.maybeDefault, "/"] (.flawAt 2 .secondSlash),
    alt [.maybe slashes, .many r.maybeDefault, "*", oneOf [",", r.noDefault],
      .many r.maybeDefault, "/"] (.flawAt 5 .slashBehindStar),
    alt [.some r.maybeDefault, "/", "*"] (.flawAt 2 .slashBeforeStar)]

/-- What leads up to a parameter that has a default. -/
def leads (r : ParameterRules) : List Alternative :=
  [only r.slashWithDefault, only (.some r.withDefault)]

/-- The mistakes from a star on. -/
def starMistakes (r : ParameterRules) : List Alternative :=
  [alt ["*", oneOf [r.final, row [",", oneOf [r.final, "**"]] 1]] (.flawAt 0 .bareStar),
    alt ["*", r.one, "="] (.flawAt 2 .starDefault),
    alt ["*", oneOf [r.noDefault, ","], .many r.maybeDefault, "*", oneOf [r.noDefault, ","]]
      (.flawAt 3 .secondStar)]

/-- The mistakes from two stars on. -/
def doubleStarMistakes (r : ParameterRules) : List Alternative :=
  [alt ["**", r.one, "="] (.flawAt 2 .doubleStarDefault),
    alt ["**", r.one, ",", r.one] (.flawAt 3 .behindDoubleStar),
    alt ["**", r.one, ",", oneOf ["*", "**", "/"]] (.flawAt 3 .behindDoubleStar)]

end ParameterRules

/-- The mistakes in the value of a dictionary. -/
def dictValueMistakes : List Alternative :=
  [alt [expression, ":", "*", bitOr] (.flawAt 2 .starredDictValue),
    alt [expression, ":", .ahead (oneOf ["\x7d", ","])] (.flawAt 1 .missingDictValue)]

/-- What may not follow an assignment that is taken for a comparison. -/
def noAssignmentAhead : Item := .notAhead (oneOf ["=", ":="])

/-- The production of a rule for mistakes. -/
def mistakeProduction : MistakeRule → Production
  | .badArguments =>
    { alternatives :=
        [alt [args, ",", "*"] (.flawAt 0 .unpackOrder),
          alt [expression, forIfClauses, ",",
            .maybe (.group [only args, alt [expression, forIfClauses] (.pick 0)])]
            (.flawAt 0 .bareGenerator),
          alt [.name, "=", expression, forIfClauses] (.flawAt 0 .singleEqual),
          alt [args, forIfClauses] bareGenerator,
          alt [args, ",", expression, forIfClauses] (.flawAt 2 .bareGenerator),
          alt [args, ",", args] argumentOrder] }
  | .badNamedArgument =>
    { alternatives :=
        [alt [oneOf ["True", "False", "None"], "="]
          (.by fun _ v => .flaw (.assignment (Build.text v 0)) (some (Build.get v 0).line)),
          alt [.name, "=", expression, forIfClauses] (.flawAt 0 .singleEqual),
          alt [.notAhead (row [.name, "="] 0), expression, "="]
            (.flawAt 1 .argumentEqual)] }
  | .legacyStatement =>
    { alternatives := [alt [.name, .notAhead "(", starExpressions]
        (.by fun _ v =>
          let t := Build.get v 0
          if isLegacy t then .flaw (.bareCall t.text) (some t.line) else .refusal)] }
  | .badExpression =>
    { alternatives :=
        [alt [.notAhead (.group [alt [.name, .literal] (.pick 0), only .anySoft]), disjunction,
            shelteredExpression]
          (.inBrackets fun v =>
            let t := Build.get v 1
            if isLegacy t then .refusal else .flaw .missingComma (some t.line)),
          alt [disjunction, "if", disjunction, .notAhead (oneOf ["else", ":"])]
            (.flawAt 0 .missingElse)] }
  | .badNamedExpression =>
    { kept := true
      alternatives :=
        [alt [expression, ":=", expression] (.flawAbout 0 .namedExpression),
          alt [.name, "=", bitOr, noAssignmentAhead] (.flawAt 0 .singleEqual),
          alt [.notAhead (oneOf [listDisplay, tupleDisplay, generatorExpression, "True", "None",
              "False"]), bitOr, "=", bitOr, noAssignmentAhead]
            (.flawAbout 1 .assignmentHere)] }
  | .badAssignment =>
    { alternatives :=
        [alt [.rule (.mistake .badAnnotated), ":", expression] (.flawAbout 0 .annotatedGroup),
          alt [starNamedExpression, ",", .many starNamedExpressions, ":", expression]
            (.flawAt 0 (.annotatedGroup "tuple")),
          alt [expression, ":", expression] (.flawAt 0 .annotatedTarget),
          alt [.many (row [starTargets, "="] 0), starExpressions, "="] (targetFlaw 1 .plain),
          alt [.many (row [starTargets, "="] 0), yieldExpr, "="] (.flawAt 1 .assignedYield),
          alt [starExpressions, augmentingSign, oneOf [yieldExpr, starExpressions]]
            (.flawAbout 0 .augmentation)] }
  | .badAnnotated =>
    { alternatives :=
        [only listDisplay, only tupleDisplay,
          alt ["(", .rule (.mistake .badAnnotated), ")"] (.pick 1)] }
  | .badDelete => { alternatives := [alt ["del", starExpressions] (targetFlaw 1 .deletion)] }
  | .badBlock => { alternatives := [alt [.newline, .notAhead .indent] (.flaw .missingBlock)] }
  | .badComprehension =>
    { alternatives :=
        [alt [oneOf ["[", "(", "\x7b"], starredExpression, forIfClauses]
          (.flawAt 1 .unpackedComprehension),
          alt [oneOf ["[", "\x7b"], starNamedExpression, ",", starNamedExpressions, forIfClauses]
            (.flawAt 1 .bareComprehensionTarget),
          alt [oneOf ["[", "\x7b"], starNamedExpression, ",", forIfClauses]
            (.flawAt 1 .bareComprehensionTarget)] }
  | .badDictComprehension =>
    { alternatives := [alt ["\x7b", "**", bitOr, forIfClauses, "\x7d"]
        (.flawAt 1 .unpackedDictComprehension)] }
  | .badParameters => { alternatives := functionRules.mistakes }
  | .badParametersHelper => { alternatives := functionRules.leads }
  | .badDefault =>
    { alternatives := [alt ["=", .ahead (oneOf [")", ","])] (.flawAt 0 .missingDefault)] }
  | .badStarEtc => { alternatives := functionRules.starMistakes }
  | .badDoubleStarred => { alternatives := functionRules.doubleStarMistakes }
  | .badLambdaParameters => { alternatives := lambdaRules.mistakes }
  | .badLambdaParametersHelper => { alternatives := lambdaRules.leads }
  | .badLambdaStarEtc => { alternatives := lambdaRules.starMistakes }
  | .badLambdaDoubleStarred => { alternatives := lambdaRules.doubleStarMistakes }
  | .badWithItem =>
    { alternatives := [alt [expression, "as", expression, .ahead (oneOf [",", ")", ":"])]
        (targetFlaw 2 .plain)] }
  | .badForTarget =>
    { alternatives := [alt [.maybe "async", "for", starExpressions] (targetFlaw 2 .loop)] }
  | .badGroup =>
    { alternatives :=
        [alt ["(", starredExpression, ")"] (.flawAt 1 .starredGroup),
          alt ["(", "**", expression, ")"] (.flawAt 1 .doubleStarredGroup)] }
  | .badImportTargets =>
    { alternatives := [alt [importedNames, ",", .newline] (.flaw .trailingImportComma)] }
  | .badWith => { alternatives := withItems.map noColon }
  | .badWithBlock =>
    { alternatives := withItems.map fun items => noBlock items "'with' statement" 1 }
  | .badTry =>
    { alternatives :=
        [noBlock ["try"] "'try' statement" 0,
          alt ["try", ":", block, .notAhead (oneOf ["except", "finally"])]
            (.flaw .missingHandler),
          alt ["try", ":", .many block, .some exceptBlock, "except", "*", expression,
            .maybe (row ["as", .name] 1), ":"] (.flawAt 4 .mixedHandlers),
          alt ["try", ":", .many block, .some exceptStarBlock, "except",
            .maybe (row exceptionItems 0), ":"] (.flawAt 4 .mixedHandlers)] }
  | .badExcept =>
    { alternatives :=
        [alt ["except", .maybe "*", expression, ",", expressions,
          .maybe (row ["as", .name] 1), ":"] (.flawAt 2 .bareExceptions),
          noColon ("except" :: .maybe "*" :: exceptionItems), noColon ["except"],
          alt ["except", "*", oneOf [.newline, ":"]] (.flaw .missingExceptions)] }
  | .badFinally => { alternatives := [noBlock ["finally"] "'finally' statement" 0] }
  | .badExceptBlock =>
    { alternatives :=
        [noBlock ("except" :: exceptionItems) "'except' statement" 0,
          noBlock ["except"] "'except' statement" 0] }
  | .badExceptStarBlock =>
    { alternatives := [noBlock ("except" :: "*" :: exceptionItems) "'except*' statement" 0] }
  | .badMatch =>
    { alternatives :=
        [noColon [.soft "match", subjectExpression],
          noBlock [.soft "match", subjectExpression] "'match' statement" 0] }
  | .badCase =>
    { alternatives :=
        [noColon [.soft "case", patterns, .maybe caseGuard],
          noBlock [.soft "case", patterns, .maybe caseGuard] "'case' statement" 0] }
  | .badAsPattern =>
    { alternatives :=
        [alt [orPattern, "as", .soft "_"] (.flawAt 2 .wildcardTarget),
          alt [orPattern, "as", .notAhead .name, expression] (.flawAt 3 .patternTarget)] }
  | .badClassPattern =>
    { alternatives := [alt [nameOrPath, "(", .rule (.mistake .badClassArguments)]
        (.by fun _ v => .flaw .patternOrder ((Build.get v 2).spread.head?.map Tree.line))] }
  | .badClassArguments =>
    { alternatives := [alt [.maybe (row [positionalPatterns, ","] 0), keywordPatterns, ",",
        positionalPatterns] (.pick 3)] }
  | .badIf =>
    { alternatives :=
        [noColon ["if", namedExpression],
          noBlock ["if", namedExpression] "'if' statement" 0] }
  | .badElif =>
    { alternatives :=
        [noColon ["elif", namedExpression],
          noBlock ["elif", namedExpression] "'elif' statement" 0] }
  | .badElse => { alternatives := [noBlock ["else"] "'else' statement" 0] }
  | .badWhile =>
    { alternatives :=
        [noColon ["while", namedExpression],
          noBlock ["while", namedExpression] "'while' statement" 0] }
  | .badFor =>
    { alternatives :=
        [noColon [.maybe "async", "for", starTargets, "in", starExpressions],
          noBlock [.maybe "async", "for", starTargets, "in", starExpressions]
            "'for' statement" 1] }
  | .badFunction =>
    { alternatives := [noBlock [.maybe "async", "def", .name, "(", .maybe params, ")",
        .maybe (row ["->", expression] 1)] "function definition" 1] }
  | .badClass =>
    let items : List Item := ["class", .name, .maybe (row ["(", .maybe arguments, ")"] 1)]
    { alternatives := [noColon items, noBlock items "class definition" 0] }
  | .badDictPairs =>
    { alternatives :=
        alt [.separated "," dictPair, ",", .rule (.mistake .badKeyValue)] (.pick 2) ::
          dictValueMistakes }
  | .badKeyValue =>
    { alternatives :=
        alt [expression, .notAhead ":"] (.flawAt 0 .missingDictColon) :: dictValueMistakes }

end NetPlan.Script.Grammar
