import ProviderRegistry.Source.Grammar

/-!
# What is wrong with a text

Rules that match texts outside the language, to find the line to blame: a target that cannot be
assigned to, a block that is missing, a comma that was forgotten. They are tried only once the text
is known to be wrong.
-/

namespace ProviderRegistry.Source

/-- What a target is for. -/
inductive TargetUse where
  | assigning
  | deleting
  | looping
  deriving DecidableEq, Repr

mutual

/-- The first part of an expression that cannot be a target. The comparison `a in b` of a loop
names the target `a`. -/
def Expr.badTarget? (use : TargetUse) : Expr → Option Expr
  | .sequence _ items => firstBadTarget? use items
  | .starred line value =>
    if use = .deleting then some (.starred line value) else value.badTarget? use
  | .comparison line left membership =>
    if use = .looping then if membership then left.badTarget? use else none
    else some (.comparison line left membership)
  | .name .. | .subscript .. | .member .. => none
  | e => some e

/-- The first part of some expressions that cannot be a target. -/
def firstBadTarget? (use : TargetUse) : List Expr → Option Expr
  | [] => none
  | item :: items => item.badTarget? use <|> firstBadTarget? use items

end

/-- Was an expression meant as a statement that is a call today? -/
def isLegacyStatement : Expr → Bool
  | .name _ id => id = "print" || id = "exec"
  | _ => false

namespace Build

/-- The text is wrong where one of the values cannot be a target. -/
def badTarget (use : TargetUse) (i : Nat) : Builder := fun r =>
  match (r.exprAt i).badTarget? use with
  | some e => .wrong e.line
  | none => .reject

/-- Two expressions in a row inside brackets lack a comma. -/
def missingComma : Builder := fun r =>
  if isLegacyStatement (r.exprAt 1) || r.depth = 0 then .reject else .wrong (r.lineAt 1)

/-- A statement that is a call today. -/
def legacyStatement : Builder := fun r =>
  if isLegacyStatement (.name 0 (r.nth 0).text) then .wrong (r.lineAt 0) else .reject

/-- A generator after other arguments lacks its parentheses. -/
def bareGenerator : Builder := fun r =>
  match (r.nth 0).exprs with
  | _ :: e :: es => .wrong ((es.getLast?.getD e).line)
  | _ => .reject

end Build

namespace Grammar

open Rule
open Build (nothing same plain wrongAt wrongHere badTarget missingComma legacyStatement
  bareGenerator)

/-- A header whose block is missing: nothing is indented after the end of its line. -/
def missingBlock (header : List Pattern) : List Pattern :=
  header ++ [.literal ":", .newline, .notAhead .indent]

/-- What is wrong in expressions. -/
def wrongExpressions : Rule → List Alternative
  | wrongArguments => [
      ([args, ",", "*"], wrongAt 0),
      ([expression, forIfClauses, ",", .opt (.group [[args], [expression, forIfClauses]])],
        wrongAt 0),
      ([.name, "=", expression, forIfClauses], wrongAt 0),
      ([args, forIfClauses], bareGenerator),
      ([args, ",", expression, forIfClauses], wrongAt 2),
      ([args, ",", args], wrongHere)]
  | wrongKwarg => [
      ([.group [["True"], ["False"], ["None"]], "="], wrongAt 0),
      ([.name, "=", expression, forIfClauses], wrongAt 0),
      ([.notAhead (.group [[.name, "="]]), expression, "="], wrongAt 1)]
  | expressionWithoutWrong => [
      ([disjunction, "if", disjunction, "else", expression], plain),
      ([disjunction], same 0),
      ([lambdef], same 0)]
  | wrongLegacyExpression => [([.name, .notAhead "(", starExpressions], legacyStatement)]
  | wrongExpression => [
      ([.notAhead (.group [[.name, .string], [.anySoft]]), disjunction, expressionWithoutWrong],
        missingComma),
      ([disjunction, "if", disjunction, .notAhead (.group [["else"], [":"]])], wrongAt 0)]
  | wrongNamedExpression => [
      ([expression, ":=", expression], wrongAt 0),
      ([.name, "=", bitwiseOr, .notAhead (.group [["="], [":="]])], wrongAt 0),
      ([.notAhead (.group [[list], [tuple], [genexp], ["True"], ["None"], ["False"]]), bitwiseOr,
        "=", bitwiseOr, .notAhead (.group [["="], [":="]])], wrongAt 1)]
  | wrongComprehension => [
      ([.group [["["], ["("], ["\x7b"]], starredExpression, forIfClauses], wrongAt 1),
      ([.group [["["], ["\x7b"]], starNamedExpression, ",", starNamedExpressions, forIfClauses],
        wrongAt 1),
      ([.group [["["], ["\x7b"]], starNamedExpression, ",", forIfClauses], wrongAt 1)]
  | wrongDictComprehension => [(["\x7b", "**", bitwiseOr, forIfClauses, "\x7d"], wrongAt 1)]
  | wrongGroup => [
      (["(", starredExpression, ")"], wrongAt 1),
      (["(", "**", expression, ")"], wrongAt 1)]
  | wrongDoubleStarredKvpairs => [
      ([.sep "," doubleStarredKvpair, ",", wrongKvpair], nothing),
      ([expression, ":", "*", bitwiseOr], wrongAt 2),
      ([expression, ":", .ahead (.group [["\x7d"], [","]])], wrongAt 1)]
  | wrongKvpair => [
      ([expression, .notAhead ":"], wrongAt 0),
      ([expression, ":", "*", bitwiseOr], wrongAt 2),
      ([expression, ":", .ahead (.group [["\x7d"], [","]])], wrongAt 1)]
  | _ => []

/-- What is wrong in parameters. -/
def wrongParameterLists : Rule → List Alternative
  | wrongParameters => [
      ([.star paramNoDefault, wrongParametersHelper, paramNoDefault], wrongAt 2),
      ([.star paramNoDefault, "(", .plus paramNoDefault, .opt ",", ")"], wrongAt 1),
      (["/", ","], wrongAt 0),
      ([.group [[slashNoDefault], [slashWithDefault]], .star paramMaybeDefault, "/"], wrongAt 2),
      ([.opt (.group [[slashNoDefault], [slashWithDefault]]), .star paramMaybeDefault, "*",
        .group [[","], [paramNoDefault]], .star paramMaybeDefault, "/"], wrongAt 5),
      ([.plus paramMaybeDefault, "/", "*"], wrongAt 2)]
  | wrongParametersHelper => [([slashWithDefault], nothing), ([.plus paramWithDefault], nothing)]
  | wrongDefault => [(["=", .ahead (.group [[")"], [","]])], wrongAt 0)]
  | wrongStarEtc => [
      (["*", .group [[")"], [",", .group [[")"], ["**"]]]]], wrongAt 0),
      (["*", param, "="], wrongAt 2),
      (["*", .group [[paramNoDefault], [","]], .star paramMaybeDefault, "*",
        .group [[paramNoDefault], [","]]], wrongAt 3)]
  | wrongKwds => [
      (["**", param, "="], wrongAt 2),
      (["**", param, ",", param], wrongAt 3),
      (["**", param, ",", .group [["*"], ["**"], ["/"]]], wrongAt 3)]
  | wrongLambdaParameters => [
      ([.star lambdaParamNoDefault, wrongLambdaParametersHelper, lambdaParamNoDefault],
        wrongAt 2),
      ([.star lambdaParamNoDefault, "(", .sep "," lambdaParam, .opt ",", ")"], wrongAt 1),
      (["/", ","], wrongAt 0),
      ([.group [[lambdaSlashNoDefault], [lambdaSlashWithDefault]], .star lambdaParamMaybeDefault,
        "/"], wrongAt 2),
      ([.opt (.group [[lambdaSlashNoDefault], [lambdaSlashWithDefault]]),
        .star lambdaParamMaybeDefault, "*", .group [[","], [lambdaParamNoDefault]],
        .star lambdaParamMaybeDefault, "/"], wrongAt 5),
      ([.plus lambdaParamMaybeDefault, "/", "*"], wrongAt 2)]
  | wrongLambdaParametersHelper => [
      ([lambdaSlashWithDefault], nothing),
      ([.plus lambdaParamWithDefault], nothing)]
  | wrongLambdaStarEtc => [
      (["*", .group [[":"], [",", .group [[":"], ["**"]]]]], wrongHere),
      (["*", lambdaParam, "="], wrongAt 2),
      (["*", .group [[lambdaParamNoDefault], [","]], .star lambdaParamMaybeDefault, "*",
        .group [[lambdaParamNoDefault], [","]]], wrongAt 3)]
  | wrongLambdaKwds => [
      (["**", lambdaParam, "="], wrongAt 2),
      (["**", lambdaParam, ",", lambdaParam], wrongAt 3),
      (["**", lambdaParam, ",", .group [["*"], ["**"], ["/"]]], wrongAt 3)]
  | _ => []

/-- What is wrong in simple statements. -/
def wrongSimpleStatements : Rule → List Alternative
  | wrongAssignment => [
      ([wrongAnnAssignTarget, ":", expression], wrongAt 0),
      ([starNamedExpression, ",", .star starNamedExpressions, ":", expression], wrongAt 0),
      ([expression, ":", expression], wrongAt 0),
      ([.star (.group [[starTargets, "="]]), starExpressions, "="], badTarget .assigning 1),
      ([.star (.group [[starTargets, "="]]), yieldExpr, "="], wrongAt 1),
      ([starExpressions, augAssign, .group [[yieldExpr], [starExpressions]]], wrongAt 0)]
  | wrongAnnAssignTarget => [
      ([list], same 0),
      ([tuple], same 0),
      (["(", wrongAnnAssignTarget, ")"], same 1)]
  | wrongDelStmt => [(["del", starExpressions], badTarget .deleting 1)]
  | wrongImportFromTargets => [([importFromAsNames, ",", .newline], wrongHere)]
  | wrongForTarget => [([.opt "async", "for", starExpressions], badTarget .looping 2)]
  | _ => []

/-- The items of a with statement in a header that may be wrong. -/
def withItems : Pattern := .sep "," (.group [[expression, .opt (.group [["as", starTarget]])]])

/-- The same between parentheses. -/
def withItemsInParentheses : Pattern :=
  .sep "," (.group [[Rule.expressions, .opt (.group [["as", starTarget]])]])

/-- What is wrong in compound statements. -/
def wrongCompoundStatements : Rule → List Alternative
  | wrongBlock => [([.newline, .notAhead .indent], wrongHere)]
  | wrongWithItem => [
      ([expression, "as", expression, .ahead (.group [[","], [")"], [":"]])],
        badTarget .assigning 2)]
  | wrongWithStmt => [
      ([.opt "async", "with", withItems, .newline], wrongHere),
      ([.opt "async", "with", "(", withItemsInParentheses, .opt ",", ")", .newline], wrongHere)]
  | wrongWithStmtIndent => [
      (missingBlock [.opt "async", "with", withItems], wrongHere),
      (missingBlock [.opt "async", "with", "(", withItemsInParentheses, .opt ",", ")"],
        wrongHere)]
  | wrongTryStmt => [
      (missingBlock ["try"], wrongHere),
      (["try", ":", block, .notAhead (.group [["except"], ["finally"]])], wrongHere),
      (["try", ":", .star block,
        .group [[.plus exceptBlock, exceptStarBlock], [.plus exceptStarBlock, exceptBlock]],
        .star block], wrongHere)]
  | wrongExceptStmt => [
      (["except", .opt "*", expression, ",", Rule.expressions, .opt (.group [["as", .name]]), ":"],
        wrongAt 2),
      (["except", .opt "*", expression, .opt (.group [["as", .name]]), .newline], wrongHere),
      (["except", .newline], wrongHere),
      (["except", "*", .group [[.newline], [":"]]], wrongHere)]
  | wrongFinallyStmt => [(missingBlock ["finally"], wrongHere)]
  | wrongExceptStmtIndent => [
      (missingBlock ["except", expression, .opt (.group [["as", .name]])], wrongHere),
      (missingBlock ["except"], wrongHere)]
  | wrongExceptStarStmtIndent => [
      (missingBlock ["except", "*", expression, .opt (.group [["as", .name]])], wrongHere)]
  | wrongMatchStmt => [
      ([.soft "match", subjectExpr, .newline], wrongHere),
      (missingBlock [.soft "match", subjectExpr], wrongHere)]
  | wrongCaseBlock => [
      ([.soft "case", patterns, .opt caseGuard, .newline], wrongHere),
      (missingBlock [.soft "case", patterns, .opt caseGuard], wrongHere)]
  | wrongAsPattern => [
      ([orPattern, "as", .soft "_"], wrongAt 2),
      ([orPattern, "as", .notAhead .name, expression], wrongAt 3)]
  | wrongClassPattern => [([nameOrAttr, "(", wrongClassArgumentPattern], wrongAt 2)]
  | wrongClassArgumentPattern => [
      ([.opt (.group [[positionalPatterns, ","]]), keywordPatterns, ",", positionalPatterns],
        same 3)]
  | wrongIfStmt => [
      (["if", namedExpression, .newline], wrongHere),
      (missingBlock ["if", namedExpression], wrongHere)]
  | wrongElifStmt => [
      (["elif", namedExpression, .newline], wrongHere),
      (missingBlock ["elif", namedExpression], wrongHere)]
  | wrongElseStmt => [(missingBlock ["else"], wrongHere)]
  | wrongWhileStmt => [
      (["while", namedExpression, .newline], wrongHere),
      (missingBlock ["while", namedExpression], wrongHere)]
  | wrongForStmt => [
      ([.opt "async", "for", starTargets, "in", starExpressions, .newline], wrongHere),
      (missingBlock [.opt "async", "for", starTargets, "in", starExpressions], wrongHere)]
  | wrongDefRaw => [
      (missingBlock [.opt "async", "def", .name, "(", .opt params, ")",
        .opt (.group [["->", expression]])], wrongHere)]
  | wrongClassDefRaw => [
      (["class", .name, .opt (.group [["(", .opt Rule.arguments, ")"]]), .newline], wrongHere),
      (missingBlock ["class", .name, .opt (.group [["(", .opt Rule.arguments, ")"]])],
        wrongHere)]
  | _ => []

end Grammar

end ProviderRegistry.Source
