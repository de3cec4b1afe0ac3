/-!
# Rules

The names of the rules of the grammar. A rule says how a form of statement, of expression or of
pattern is made up; a rule for a **mistake** says how such a form is missed.
-/

namespace NetPlan.Script

/-- The rules for statements. -/
inductive StatementRule where
  | script
  | statements
  | statement
  | simpleStatements
  | simpleStatement
  | compoundStatement
  | assignment
  | assignedValue
  | augmentingSign
  | returnStatement
  | raiseStatement
  | globalStatement
  | nonlocalStatement
  | deleteStatement
  | yieldStatement
  | assertStatement
  | importStatement
  | importName
  | importFrom
  | importedTargets
  | importedNames
  | importedName
  | dottedNames
  | dottedAsName
  | dottedName
  | block
  | decorators
  | classDefinition
  | plainClass
  | functionDefinition
  | plainFunction
  | params
  | parameters
  | slashNoDefault
  | slashWithDefault
  | starEtc
  | doubleStarred
  | paramNoDefault
  | paramNoDefaultStarred
  | paramWithDefault
  | paramMaybeDefault
  | param
  | paramStarred
  | annotated
  | starAnnotated
  | defaultValue
  | ifStatement
  | elifStatement
  | elseBlock
  | whileStatement
  | forStatement
  | withStatement
  | withItem
  | tryStatement
  | exceptBlock
  | exceptStarBlock
  | finallyBlock
deriving DecidableEq, Repr

/-- The rules for expressions and for what can be assigned to. -/
inductive ExpressionRule where
  | fieldExpression
  | expressions
  | expression
  | yieldExpr
  | starExpressions
  | starExpression
  | starNamedExpressions
  | starNamedExpression
  | assignmentExpression
  | namedExpression
  | disjunction
  | conjunction
  | inversion
  | comparison
  | comparedPair
  | equalPair
  | unequalPair
  | atMostPair
  | lessPair
  | atLeastPair
  | greaterPair
  | notInPair
  | inPair
  | isNotPair
  | isPair
  | bitOr
  | bitXor
  | bitAnd
  | shift
  | sum
  | term
  | factor
  | power
  | awaitPrimary
  | primary
  | slices
  | slice
  | atom
  | group
  | lambdaDefinition
  | lambdaParams
  | lambdaParameters
  | lambdaSlashNoDefault
  | lambdaSlashWithDefault
  | lambdaStarEtc
  | lambdaDoubleStarred
  | lambdaParamNoDefault
  | lambdaParamWithDefault
  | lambdaParamMaybeDefault
  | lambdaParam
  | literals
  | listDisplay
  | tupleDisplay
  | setDisplay
  | dictDisplay
  | dictPairs
  | dictPair
  | keyValue
  | forIfClauses
  | forIfClause
  | listComprehension
  | setComprehension
  | generatorExpression
  | dictComprehension
  | arguments
  | args
  | namedArgs
  | starredExpression
  | namedOrStarred
  | namedOrDoubleStarred
  | starTargets
  | starTargetsList
  | starTargetsTuple
  | starTarget
  | starAtomTarget
  | starAtom
  | singleTarget
  | singlePartTarget
  | targetPrimary
  | targetAhead
  | deleteTargets
  | deleteTarget
  | deleteAtom
  | shelteredExpression
deriving DecidableEq, Repr

/-- The rules for patterns. -/
inductive PatternRule where
  | matchStatement
  | subjectExpression
  | caseBlock
  | caseGuard
  | patterns
  | pattern
  | asPattern
  | orPattern
  | closedPattern
  | literalPattern
  | literalKey
  | complexNumber
  | signedNumber
  | signedRealNumber
  | realNumber
  | imaginaryNumber
  | capturePattern
  | captureTarget
  | wildcardPattern
  | valuePattern
  | attributePath
  | nameOrPath
  | groupPattern
  | sequencePattern
  | openSequence
  | maybeSequence
  | maybeStarPattern
  | starPattern
  | mappingPattern
  | itemsPattern
  | keyValuePattern
  | doubleStarPattern
  | classPattern
  | positionalPatterns
  | keywordPatterns
  | keywordPattern
deriving DecidableEq, Repr

/-- The rules for mistakes. -/
inductive MistakeRule where
  | badArguments
  | badNamedArgument
  | legacyStatement
  | badExpression
  | badNamedExpression
  | badAssignment
  | badAnnotated
  | badDelete
  | badBlock
  | badComprehension
  | badDictComprehension
  | badParameters
  | badParametersHelper
  | badDefault
  | badStarEtc
  | badDoubleStarred
  | badLambdaParameters
  | badLambdaParametersHelper
  | badLambdaStarEtc
  | badLambdaDoubleStarred
  | badWithItem
  | badForTarget
  | badGroup
  | badImportTargets
  | badWith
  | badWithBlock
  | badTry
  | badExcept
  | badFinally
  | badExceptBlock
  | badExceptStarBlock
  | badMatch
  | badCase
  | badAsPattern
  | badClassPattern
  | badClassArguments
  | badIf
  | badElif
  | badElse
  | badWhile
  | badFor
  | badFunction
  | badClass
  | badDictPairs
  | badKeyValue
deriving DecidableEq, Repr

/-- The rules of the grammar. -/
inductive Rule where
  | statement (r : StatementRule)
  | expression (r : ExpressionRule)
  | pattern (r : PatternRule)
  | mistake (r : MistakeRule)
deriving DecidableEq, Repr

/-- The number of a rule, below `Rule.bound`. -/
def Rule.index : Rule → Nat
  | statement r => r.ctorIdx
  | expression r => 100 + r.ctorIdx
  | pattern r => 200 + r.ctorIdx
  | mistake r => 300 + r.ctorIdx

/-- A bound for the numbers of rules. -/
def Rule.bound : Nat := 512

end NetPlan.Script
