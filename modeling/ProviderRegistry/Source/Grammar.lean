import ProviderRegistry.Source.Token
import ProviderRegistry.Source.Tree

/-!
# Grammars

A grammar gives for each rule its alternatives in the order in which they are tried: a sequence of
patterns (`Pattern`), and what is built from what they matched (`Builder`). Some rules match only
texts that are wrong; they are tried in search of the line to blame once a text is known to be
wrong.

The rules themselves are in the modules below this one.
-/

namespace ProviderRegistry.Source

/-- The rules of the grammar. -/
inductive Rule where
  | file | fstring
  -- statements
  | statements | statement | simpleStmts | simpleStmt | compoundStmt
  | assignment | annotatedRhs | augAssign | returnStmt | raiseStmt | globalStmt | nonlocalStmt
  | delStmt | yieldStmt | assertStmt
  | importStmt | importName | importFrom | importFromTargets | importFromAsNames | importFromAsName
  | dottedAsNames | dottedAsName | dottedName
  | block | decorators | classDef | classDefRaw | functionDef | functionDefRaw
  | params | parameters | slashNoDefault | slashWithDefault | starEtc | kwds
  | paramNoDefault | paramNoDefaultStarHint | paramWithDefault | paramMaybeDefault
  | param | paramStarHint | typeHint | starHint | defaultValue
  | ifStmt | elifStmt | elseBlock | whileStmt | forStmt | withStmt | withItem
  | tryStmt | exceptBlock | exceptStarBlock | finallyBlock
  -- patterns of a match
  | matchStmt | subjectExpr | caseBlock | caseGuard | patterns | pattern | asPattern | orPattern
  | closedPattern | literalPattern | literalExpr | complexNumber | signedNumber | signedRealNumber
  | realNumber | imaginaryNumber | capturePattern | patternCaptureTarget | wildcardPattern
  | valuePattern | attr | nameOrAttr | groupPattern | sequencePattern | openSequencePattern
  | maybeSequencePattern | maybeStarPattern | starPattern | mappingPattern | itemsPattern
  | keyValuePattern | doubleStarPattern | classPattern | positionalPatterns | keywordPatterns
  | keywordPattern
  -- expressions
  | expressions | expression | yieldExpr | starExpressions | starExpression | starNamedExpressions
  | starNamedExpression | assignmentExpression | namedExpression | disjunction | conjunction
  | inversion | comparison | compareOpBitwiseOrPair | bitwiseOr | bitwiseXor | bitwiseAnd
  | shiftExpr | sum | term | factor | power | awaitPrimary | primary | slices | slice | atom
  | group
  | lambdef | lambdaParams | lambdaParameters | lambdaSlashNoDefault | lambdaSlashWithDefault
  | lambdaStarEtc | lambdaKwds | lambdaParamNoDefault | lambdaParamWithDefault
  | lambdaParamMaybeDefault | lambdaParam
  | strings | list | tuple | setDisplay | dict | doubleStarredKvpairs | doubleStarredKvpair
  | kvpair | forIfClauses | forIfClause | listcomp | setcomp | genexp | dictcomp
  | arguments | args | kwargs | starredExpression | kwargOrStarred | kwargOrDoubleStarred
  -- targets
  | starTargets | starTargetsListSeq | starTargetsTupleSeq | starTarget | targetWithStarAtom
  | starAtom | singleTarget | singleSubscriptAttributeTarget | tPrimary | tLookahead
  | delTargets | delTarget | delTAtom
  -- what is wrong
  | wrongArguments | wrongKwarg | expressionWithoutWrong | wrongLegacyExpression | wrongExpression
  | wrongNamedExpression | wrongAssignment | wrongAnnAssignTarget | wrongDelStmt | wrongBlock
  | wrongComprehension | wrongDictComprehension | wrongParameters | wrongParametersHelper
  | wrongDefault | wrongStarEtc | wrongKwds | wrongLambdaParameters | wrongLambdaParametersHelper
  | wrongLambdaStarEtc | wrongLambdaKwds | wrongWithItem | wrongForTarget | wrongGroup
  | wrongImportFromTargets | wrongWithStmt | wrongWithStmtIndent | wrongTryStmt | wrongExceptStmt
  | wrongFinallyStmt | wrongExceptStmtIndent | wrongExceptStarStmtIndent | wrongMatchStmt
  | wrongCaseBlock | wrongAsPattern | wrongClassPattern | wrongClassArgumentPattern | wrongIfStmt
  | wrongElifStmt | wrongElseStmt | wrongWhileStmt | wrongForStmt | wrongDefRaw | wrongClassDefRaw
  | wrongDoubleStarredKvpairs | wrongKvpair
  deriving DecidableEq, Hashable, Repr

/-- What a sequence of tokens may look like. -/
inductive Pattern where
  | name
  | number
  | string
  | newline
  | indent
  | dedent
  | endOfText
  /-- An operator or a keyword. -/
  | literal (text : String)
  /-- A name that is a keyword here. -/
  | soft (text : String)
  /-- A name that is a keyword in some places. -/
  | anySoft
  | rule (rule : Rule)
  /-- A rule for what is wrong, tried in search of the line to blame. -/
  | wrong (rule : Rule)
  | opt (pattern : Pattern)
  | star (pattern : Pattern)
  | plus (pattern : Pattern)
  /-- One or more, with a separator between two. -/
  | sep (separator : Pattern) (pattern : Pattern)
  | ahead (pattern : Pattern)
  | notAhead (pattern : Pattern)
  /-- From here on no other alternative of the rule is tried. -/
  | commit
  /-- An operator without which the text is wrong. -/
  | forced (text : String)
  /-- Some sequences of which one is to match. -/
  | group (alternatives : List (List Pattern))

instance : Coe Rule Pattern := ⟨.rule⟩

instance : Coe String Pattern := ⟨.literal⟩

/-! ### What is built -/

/-- What is built from the tokens that a pattern matched. -/
inductive Value where
  | nothing
  | token (token : Token)
  | many (values : List Value)
  | expr (expr : Expr)
  | keyword (line : Nat) (name : Option String) (value : Expr)
  | arguments (line : Nat) (arguments : List Expr) (keywords : List (Option String × Expr))
  | statements (statements : List Stmt)
  | parameters (parameters : Parameters)
  | dotted (name : String)
  | imported (names : List ImportedName)

namespace Value

mutual

/-- The line of the first thing that has one. -/
def line? : Value → Option Nat
  | token t => some t.line
  | expr e => some e.line
  | keyword line _ _ | arguments line _ _ => some line
  | many values => firstLine? values
  | _ => none

@[inherit_doc line?]
def firstLine? : List Value → Option Nat
  | [] => none
  | value :: values => value.line? <|> firstLine? values

end

mutual

/-- The expressions, in order; of arguments those that have no name. -/
def exprs : Value → List Expr
  | expr e => [e]
  | arguments _ es _ => es
  | many values => allExprs values
  | _ => []

@[inherit_doc exprs]
def allExprs : List Value → List Expr
  | [] => []
  | value :: values => value.exprs ++ allExprs values

end

mutual

/-- The arguments that have a name or may bring some. -/
def keywords : Value → List (Option String × Expr)
  | keyword _ name value => [(name, value)]
  | arguments _ _ ks => ks
  | many values => allKeywords values
  | _ => []

@[inherit_doc keywords]
def allKeywords : List Value → List (Option String × Expr)
  | [] => []
  | value :: values => value.keywords ++ allKeywords values

end

mutual

/-- The statements, in order. -/
def stmts : Value → List Stmt
  | statements ss => ss
  | many values => allStmts values
  | _ => []

@[inherit_doc stmts]
def allStmts : List Value → List Stmt
  | [] => []
  | value :: values => value.stmts ++ allStmts values

end

mutual

/-- The names that are imported, in order. -/
def importedNames : Value → List ImportedName
  | imported names => names
  | many values => allImportedNames values
  | _ => []

@[inherit_doc importedNames]
def allImportedNames : List Value → List ImportedName
  | [] => []
  | value :: values => value.importedNames ++ allImportedNames values

end

mutual

/-- The tokens, in order. -/
def tokens : Value → List Token
  | token t => [t]
  | many values => allTokens values
  | _ => []

@[inherit_doc tokens]
def allTokens : List Value → List Token
  | [] => []
  | value :: values => value.tokens ++ allTokens values

end

/-- The values of a repetition or of a sequence. -/
def toList : Value → List Value
  | many values => values
  | nothing => []
  | value => [value]

/-- The text of a name. -/
def text : Value → String
  | token t => t.text
  | dotted name => name
  | _ => ""

/-- Is there nothing? -/
def isNothing : Value → Bool
  | nothing => true
  | _ => false

/-- Has a parameter a default? One that may have a default is a name with what follows it. -/
def hasDefault : Value → Bool
  | many [_, value] => !value.isNothing
  | _ => false

/-- The parameters of a part of a header; those that stand alone are positional. -/
def positional : Value → Parameters
  | parameters p => p
  | nothing => {}
  | value => { positional := value.toList.map hasDefault }

end Value

/-- What is wrong with some adjacent strings: something that shows at their end, or in the text of
one of them. -/
inductive StringFault where
  | atEnd
  | inside (line : Nat)

/-- What an alternative matched: the values of its patterns, the line of its first token, the line
of the furthest token that was looked at, the brackets open after its last token, and what is wrong
with strings. -/
structure Reading where
  values : List Value
  line : Nat
  furthest : Nat
  depth : Nat
  inspect : List Token → Option StringFault

/-- What comes of an alternative that matched. -/
inductive Outcome where
  | value (value : Value)
  /-- The rule does not match after all, nor do its other alternatives. -/
  | reject
  /-- The text is wrong in a line. -/
  | wrong (line : Nat)

/-- What to build from an alternative that matched. -/
abbrev Builder := Reading → Outcome

/-- A sequence of patterns, and what to build from it. -/
abbrev Alternative := List Pattern × Builder

namespace Reading

/-- The value of one of the patterns. -/
def nth (reading : Reading) (i : Nat) : Value := reading.values.getD i .nothing

/-- The line of one of the values. -/
def lineAt (reading : Reading) (i : Nat) : Nat := (reading.nth i).line?.getD reading.line

/-- The expression that one of the values is. -/
def exprAt (reading : Reading) (i : Nat) : Expr :=
  (reading.nth i).exprs.headD (.other reading.line)

end Reading

namespace Build

/-- Nothing that anybody asks for. -/
def nothing : Builder := fun _ => .value .nothing

/-- The value of one of the patterns. -/
def same (i : Nat) : Builder := fun r => .value (r.nth i)

/-- An expression of which nothing is known. -/
def plain : Builder := fun r => .value (.expr (.other r.line))

/-- A list or a tuple of all expressions. -/
def sequence : Builder := fun r => .value (.expr (.sequence r.line (Value.allExprs r.values)))

/-- An expression after a star. -/
def starred : Builder := fun r => .value (.expr (.starred r.line (r.exprAt 1)))

/-- A statement of which nothing is known. -/
def statement : Builder := fun _ => .value (.statements [.other])

/-- All statements. -/
def statements : Builder := fun r => .value (.statements (Value.allStmts r.values))

/-- The text is wrong in the line of one of the values. -/
def wrongAt (i : Nat) : Builder := fun r => .wrong (r.lineAt i)

/-- The text is wrong in the line of the furthest token. -/
def wrongHere : Builder := fun r => .wrong r.furthest

end Build

end ProviderRegistry.Source
