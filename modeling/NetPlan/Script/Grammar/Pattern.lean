import NetPlan.Script.Grammar.Basic

/-!
# Patterns

The rules for statements that choose by patterns, and for the patterns.
-/

namespace NetPlan.Script.Grammar

open StatementRule ExpressionRule PatternRule

/-- A pattern from its alternatives, or the only one. -/
def orAlternatives : Build :=
  .by fun line v =>
    match (Build.get v 0).spread with
    | [t] => .tree t
    | ts => .tree (.node .alternatives line ts)

/-- A number that has to have an imaginary part, or must have none. -/
def checkedNumber (imaginary : Bool) : Build :=
  .by fun _ v =>
    let t := Build.get v 0
    let isImaginary := match t.label with
      | .constant (.imaginary _) => true
      | _ => false
    if isImaginary = imaginary then .tree t
    else .flaw (if imaginary then .imaginaryWanted else .realWanted) (some t.line)

/-- A class pattern with patterns at some places. -/
def classNode (positional keyword : Option Nat) : Build :=
  .by fun line v =>
    let series (place? : Option Nat) : Tree :=
      .node .series line (match place? with
        | some i => (Build.get v i).spread
        | none => [])
    .tree (.node .classPattern line [Build.get v 0, series positional, series keyword])

/-- What may not follow a name that is captured. -/
def pathAhead : Item := .notAhead (oneOf [".", "(", "="])

/-- A value that is written out. -/
def constantNode (c : Constant) : Build :=
  .by fun line _ => .tree (.node .valuePattern line [.node (.constant c) line []])

/-- The production of a rule for patterns. -/
def patternProduction : PatternRule → Production
  | matchStatement =>
    { alternatives :=
        [alt [.soft "match", subjectExpression, ":", .newline, .indent, .some caseBlock, .dedent]
          (.make .matching [1, 5]),
          mistake .badMatch] }
  | subjectExpression =>
    { alternatives :=
        [alt [starNamedExpression, ",", .maybe starNamedExpressions] (.collect .tuple [0, 2]),
          only namedExpression] }
  | caseBlock =>
    { alternatives :=
        [mistake .badCase,
          alt [.soft "case", patterns, .maybe caseGuard, ":", block]
            (.make .matchCase [1, 2, 4])] }
  | caseGuard => { alternatives := [alt ["if", namedExpression] (.pick 1)] }
  | patterns =>
    { alternatives := [alt [openSequence] (.collect .sequencePattern [0]), only pattern] }
  | pattern => { alternatives := [only asPattern, only orPattern] }
  | asPattern =>
    { alternatives :=
        [alt [orPattern, "as", captureTarget]
          (.makeBy (fun v => .capture (some (Build.text v 2))) [0]),
          mistake .badAsPattern] }
  | orPattern => { alternatives := [alt [.separated "|" closedPattern] orAlternatives] }
  | closedPattern =>
    { kept := true
      alternatives := [only literalPattern, only capturePattern, only wildcardPattern,
        only valuePattern, only groupPattern, only sequencePattern, only mappingPattern,
        only classPattern] }
  | literalPattern =>
    { alternatives :=
        [alt [signedNumber, .notAhead (oneOf ["+", "-"])] (.make .valuePattern [0]),
          alt [complexNumber] (.make .valuePattern [0]),
          alt [literals] (.make .valuePattern [0]), alt ["None"] (constantNode .nothing),
          alt ["True"] (constantNode (.flag true)),
          alt ["False"] (constantNode (.flag false))] }
  | literalKey =>
    { alternatives :=
        [alt [signedNumber, .notAhead (oneOf ["+", "-"])] (.pick 0), only complexNumber,
          only literals, alt ["None"] (.make (.constant .nothing) []),
          alt ["True"] (.make (.constant (.flag true)) []),
          alt ["False"] (.make (.constant (.flag false)) [])] }
  | complexNumber =>
    { alternatives := ["+", "-"].map fun sign =>
        alt [signedRealNumber, .sign sign, imaginaryNumber] (.make (.binary sign) [0, 2]) }
  | signedNumber =>
    { alternatives := [only .number, alt ["-", .number] (.make (.unary "-") [1])] }
  | signedRealNumber =>
    { alternatives := [only realNumber, alt ["-", realNumber] (.make (.unary "-") [1])] }
  | realNumber => { alternatives := [alt [.number] (checkedNumber false)] }
  | imaginaryNumber => { alternatives := [alt [.number] (checkedNumber true)] }
  | capturePattern =>
    { alternatives := [alt [captureTarget]
        (.makeBy (fun v => .capture (some (Build.text v 0))) [])] }
  | captureTarget =>
    { alternatives := [alt [.notAhead (.soft "_"), .name, pathAhead] (.pick 1)] }
  | wildcardPattern => { alternatives := [alt [.soft "_"] (.make (.capture none) [])] }
  | valuePattern =>
    { alternatives := [alt [attributePath, pathAhead] (.make .valuePattern [0])] }
  | attributePath =>
    { recursive := true
      alternatives := [alt [nameOrPath, ".", .name]
        (.makeBy (fun v => .attribute (Build.text v 2)) [0])] }
  | nameOrPath => { alternatives := [only attributePath, only .name] }
  | groupPattern => { alternatives := [alt ["(", pattern, ")"] (.pick 1)] }
  | sequencePattern =>
    { alternatives :=
        [alt ["[", .maybe maybeSequence, "]"] (.collect .sequencePattern [1]),
          alt ["(", .maybe openSequence, ")"] (.collect .sequencePattern [1])] }
  | openSequence =>
    { alternatives := [alt [maybeStarPattern, ",", .maybe maybeSequence]
        (.collect .series [0, 2])] }
  | maybeSequence =>
    { alternatives := [alt [.separated "," maybeStarPattern, .maybe ","] (.pick 0)] }
  | maybeStarPattern => { alternatives := [only starPattern, only pattern] }
  | starPattern =>
    { kept := true
      alternatives :=
        [alt ["*", captureTarget] (.makeBy (fun v => .starPattern (some (Build.text v 1))) []),
          alt ["*", wildcardPattern] (.make (.starPattern none) [])] }
  | mappingPattern =>
    { alternatives :=
        [alt ["\x7b", "\x7d"] (.make (.mappingPattern none) []),
          alt ["\x7b", doubleStarPattern, .maybe ",", "\x7d"]
            (.makeBy (fun v => .mappingPattern (some (Build.text v 1))) []),
          alt ["\x7b", itemsPattern, ",", doubleStarPattern, .maybe ",", "\x7d"]
            (.by fun line v => .tree (.node (.mappingPattern (some (Build.text v 3))) line
              (Build.get v 1).spread)),
          alt ["\x7b", itemsPattern, .maybe ",", "\x7d"]
            (.collect (.mappingPattern none) [1])] }
  | itemsPattern => { alternatives := [only (.separated "," keyValuePattern)] }
  | keyValuePattern =>
    { alternatives := [alt [oneOf [literalKey, attributePath], ":", pattern]
        (.make .pair [0, 2])] }
  | doubleStarPattern => { alternatives := [alt ["**", captureTarget] (.pick 1)] }
  | classPattern =>
    { alternatives :=
        [alt [nameOrPath, "(", ")"] (classNode none none),
          alt [nameOrPath, "(", positionalPatterns, .maybe ",", ")"] (classNode (some 2) none),
          alt [nameOrPath, "(", keywordPatterns, .maybe ",", ")"] (classNode none (some 2)),
          alt [nameOrPath, "(", positionalPatterns, ",", keywordPatterns, .maybe ",", ")"]
            (classNode (some 2) (some 4)),
          mistake .badClassPattern] }
  | positionalPatterns => { alternatives := [only (.separated "," pattern)] }
  | keywordPatterns => { alternatives := [only (.separated "," keywordPattern)] }
  | keywordPattern =>
    { alternatives := [alt [.name, "=", pattern]
        (.makeBy (fun v => .namedPattern (Build.text v 0)) [2])] }

end NetPlan.Script.Grammar
