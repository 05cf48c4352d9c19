import ProviderRegistry.Source.Grammar

/-!
# The grammar of expressions

Expressions, the arguments of calls, and the targets of assignments.
-/

namespace ProviderRegistry.Source

namespace Build

/-- Everything that was matched. -/
def collect : Builder := fun r => .value (.many r.values)

/-- A comparison; of its operators only a first `in` matters. -/
def comparison : Builder := fun r =>
  let membership := match r.nth 1 with
    | .many (.token _ :: _) => true
    | _ => false
  .value (.expr (.comparison r.line (r.exprAt 0) membership))

/-- A name. -/
def name : Builder := fun r => .value (.expr (.name r.line (r.nth 0).text))

/-- A member of an expression. -/
def member : Builder := fun r => .value (.expr (.member r.line (r.exprAt 0) (r.nth 2).text))

/-- A call. -/
def call (arguments : Nat) : Builder := fun r =>
  .value (.expr (.call r.line (r.exprAt 0) (r.nth arguments).exprs (r.nth arguments).keywords))

/-- A subscript. -/
def subscript : Builder := fun r => .value (.expr (.subscript r.line (r.exprAt 0)))

/-- The arguments of all parts. -/
def arguments : Builder := fun r =>
  .value (.arguments r.line (Value.allExprs r.values) (Value.allKeywords r.values))

/-- An argument with a name. -/
def keyword : Builder := fun r =>
  .value (.keyword r.line (some (r.nth 0).text) (r.exprAt 2))

/-- Arguments that bring their names. -/
def unpackedKeywords : Builder := fun r => .value (.keyword r.line none (r.exprAt 1))

/-- Adjacent strings, which are inspected. -/
def strings : Builder := fun r =>
  match r.inspect (r.nth 0).tokens with
  | none => .value (.expr (.other r.line))
  | some .atEnd => .wrong r.furthest
  | some (.inside line) => .wrong line

end Build

namespace Grammar

open Rule
open Build (nothing same plain starred collect member call subscript keyword unpackedKeywords)

/-- The rules of an operator that groups to the left: operators, and the operands they join. -/
def leftOperator (self operand : Rule) (operators : List String) : List Alternative :=
  operators.map (fun text => ([.rule self, .literal text, .rule operand], plain)) ++
    [([.rule operand], same 0)]

/-- Expressions down to their atoms. -/
def expressions : Rule → List Alternative
  | Rule.expressions | starExpressions => []
  | expression => [
      ([.wrong wrongExpression], nothing),
      ([.wrong wrongLegacyExpression], nothing),
      ([disjunction, "if", disjunction, "else", expression], plain),
      ([disjunction], same 0),
      ([lambdef], same 0)]
  | yieldExpr => [
      (["yield", "from", expression], plain),
      (["yield", .opt starExpressions], plain)]
  | starExpression => [(["*", bitwiseOr], starred), ([expression], same 0)]
  | starNamedExpressions => [([.sep "," starNamedExpression, .opt ","], collect)]
  | starNamedExpression => [(["*", bitwiseOr], starred), ([namedExpression], same 0)]
  | assignmentExpression => [([.name, ":=", .commit, expression], plain)]
  | namedExpression => [
      ([assignmentExpression], same 0),
      ([.wrong wrongNamedExpression], nothing),
      ([expression, .notAhead ":="], same 0)]
  | disjunction => [
      ([conjunction, .plus (.group [["or", conjunction]])], plain),
      ([conjunction], same 0)]
  | conjunction => [
      ([inversion, .plus (.group [["and", inversion]])], plain),
      ([inversion], same 0)]
  | inversion => [(["not", inversion], plain), ([Rule.comparison], same 0)]
  | Rule.comparison => [
      ([bitwiseOr, .plus compareOpBitwiseOrPair], Build.comparison),
      ([bitwiseOr], same 0)]
  | compareOpBitwiseOrPair => [
      (["==", bitwiseOr], nothing),
      (["!=", bitwiseOr], nothing),
      (["<=", bitwiseOr], nothing),
      (["<", bitwiseOr], nothing),
      ([">=", bitwiseOr], nothing),
      ([">", bitwiseOr], nothing),
      (["not", "in", bitwiseOr], nothing),
      (["in", bitwiseOr], same 0),
      (["is", "not", bitwiseOr], nothing),
      (["is", bitwiseOr], nothing)]
  | bitwiseOr => leftOperator bitwiseOr bitwiseXor ["|"]
  | bitwiseXor => leftOperator bitwiseXor bitwiseAnd ["^"]
  | bitwiseAnd => leftOperator bitwiseAnd shiftExpr ["&"]
  | shiftExpr => leftOperator shiftExpr sum ["<<", ">>"]
  | sum => leftOperator sum term ["+", "-"]
  | term => leftOperator term factor ["*", "/", "//", "%", "@"]
  | factor => [
      (["+", factor], plain),
      (["-", factor], plain),
      (["~", factor], plain),
      ([power], same 0)]
  | power => [([awaitPrimary, "**", factor], plain), ([awaitPrimary], same 0)]
  | awaitPrimary => [(["await", primary], plain), ([primary], same 0)]
  | primary => [
      ([primary, ".", .name], member),
      ([primary, genexp], call 1),
      ([primary, "(", .opt Rule.arguments, ")"], call 2),
      ([primary, "[", slices, "]"], subscript),
      ([atom], same 0)]
  | slices => [
      ([slice, .notAhead ","], nothing),
      ([.sep "," (.group [[slice], [starredExpression]]), .opt ","], nothing)]
  | slice => [
      ([.opt expression, ":", .opt expression, .opt (.group [[":", .opt expression]])], nothing),
      ([namedExpression], nothing)]
  | atom => [
      ([.name], Build.name),
      (["True"], plain),
      (["False"], plain),
      (["None"], plain),
      ([.ahead .string, Rule.strings], same 1),
      ([.number], plain),
      ([.ahead "(", .group [[tuple], [Rule.group], [genexp]]], same 1),
      ([.ahead "[", .group [[list], [listcomp]]], same 1),
      ([.ahead "\x7b", .group [[dict], [setDisplay], [dictcomp], [setcomp]]], same 1),
      (["..."], plain)]
  | Rule.group => [
      (["(", .group [[yieldExpr], [namedExpression]], ")"], same 1),
      ([.wrong wrongGroup], nothing)]
  | Rule.strings => [([.plus .string], Build.strings)]
  | list => [(["[", .opt starNamedExpressions, "]"], Build.sequence)]
  | tuple => [
      (["(", .opt (.group [[starNamedExpression, ",", .opt starNamedExpressions]]), ")"],
        Build.sequence)]
  | setDisplay => [(["\x7b", starNamedExpressions, "\x7d"], plain)]
  | dict => [
      (["\x7b", .opt doubleStarredKvpairs, "\x7d"], plain),
      (["\x7b", wrongDoubleStarredKvpairs, "\x7d"], nothing)]
  | doubleStarredKvpairs => [([.sep "," doubleStarredKvpair, .opt ","], nothing)]
  | doubleStarredKvpair => [(["**", bitwiseOr], nothing), ([kvpair], nothing)]
  | kvpair => [([expression, ":", expression], nothing)]
  | forIfClauses => [([.plus forIfClause], nothing)]
  | forIfClause => [
      (["async", "for", starTargets, "in", .commit, disjunction,
        .star (.group [["if", disjunction]])], nothing),
      (["for", starTargets, "in", .commit, disjunction, .star (.group [["if", disjunction]])],
        nothing),
      ([.wrong wrongForTarget], nothing)]
  | listcomp => [
      (["[", namedExpression, forIfClauses, "]"], plain),
      ([.wrong wrongComprehension], nothing)]
  | setcomp => [
      (["\x7b", namedExpression, forIfClauses, "\x7d"], plain),
      ([.wrong wrongComprehension], nothing)]
  | genexp => [
      (["(", .group [[assignmentExpression], [expression, .notAhead ":="]], forIfClauses, ")"],
        plain),
      ([.wrong wrongComprehension], nothing)]
  | dictcomp => [
      (["\x7b", kvpair, forIfClauses, "\x7d"], plain),
      ([.wrong wrongDictComprehension], nothing)]
  | _ => []

/-- Expressions with commas between them. -/
def expressionLists : Rule → List Alternative
  | Rule.expressions => [
      ([expression, .plus (.group [[",", expression]]), .opt ","], Build.sequence),
      ([expression, ","], Build.sequence),
      ([expression], same 0)]
  | starExpressions => [
      ([starExpression, .plus (.group [[",", starExpression]]), .opt ","], Build.sequence),
      ([starExpression, ","], Build.sequence),
      ([starExpression], same 0)]
  | _ => []

/-- Functions without a name, and their parameters. -/
def lambdas : Rule → List Alternative
  | lambdef => [(["lambda", .opt lambdaParams, ":", expression], plain)]
  | lambdaParams => [([.wrong wrongLambdaParameters], nothing), ([lambdaParameters], nothing)]
  | lambdaParameters => [
      ([lambdaSlashNoDefault, .star lambdaParamNoDefault, .star lambdaParamWithDefault,
        .opt lambdaStarEtc], nothing),
      ([lambdaSlashWithDefault, .star lambdaParamWithDefault, .opt lambdaStarEtc], nothing),
      ([.plus lambdaParamNoDefault, .star lambdaParamWithDefault, .opt lambdaStarEtc], nothing),
      ([.plus lambdaParamWithDefault, .opt lambdaStarEtc], nothing),
      ([lambdaStarEtc], nothing)]
  | lambdaSlashNoDefault => [
      ([.plus lambdaParamNoDefault, "/", ","], nothing),
      ([.plus lambdaParamNoDefault, "/", .ahead ":"], nothing)]
  | lambdaSlashWithDefault => [
      ([.star lambdaParamNoDefault, .plus lambdaParamWithDefault, "/", ","], nothing),
      ([.star lambdaParamNoDefault, .plus lambdaParamWithDefault, "/", .ahead ":"], nothing)]
  | lambdaStarEtc => [
      ([.wrong wrongLambdaStarEtc], nothing),
      (["*", lambdaParamNoDefault, .star lambdaParamMaybeDefault, .opt lambdaKwds], nothing),
      (["*", ",", .plus lambdaParamMaybeDefault, .opt lambdaKwds], nothing),
      ([lambdaKwds], nothing)]
  | lambdaKwds => [
      ([.wrong wrongLambdaKwds], nothing),
      (["**", lambdaParamNoDefault], nothing)]
  | lambdaParamNoDefault => [([lambdaParam, ","], same 0), ([lambdaParam, .ahead ":"], same 0)]
  | lambdaParamWithDefault => [
      ([lambdaParam, defaultValue, ","], nothing),
      ([lambdaParam, defaultValue, .ahead ":"], nothing)]
  | lambdaParamMaybeDefault => [
      ([lambdaParam, .opt defaultValue, ","], nothing),
      ([lambdaParam, .opt defaultValue, .ahead ":"], nothing)]
  | lambdaParam => [([.name], same 0)]
  | _ => []

/-- The arguments of calls. -/
def callArguments : Rule → List Alternative
  | Rule.arguments => [
      ([args, .opt ",", .ahead ")"], same 0),
      ([.wrong wrongArguments], nothing)]
  | args => [
      ([.sep "," (.group [
          [starredExpression],
          [.group [[assignmentExpression], [expression, .notAhead ":="]], .notAhead "="]]),
        .opt (.group [[",", kwargs]])], Build.arguments),
      ([kwargs], Build.arguments)]
  | kwargs => [
      ([.sep "," kwargOrStarred, ",", .sep "," kwargOrDoubleStarred], Build.arguments),
      ([.sep "," kwargOrStarred], Build.arguments),
      ([.sep "," kwargOrDoubleStarred], Build.arguments)]
  | starredExpression => [(["*", expression], starred)]
  | kwargOrStarred => [
      ([.wrong wrongKwarg], nothing),
      ([.name, "=", expression], keyword),
      ([starredExpression], same 0)]
  | kwargOrDoubleStarred => [
      ([.wrong wrongKwarg], nothing),
      ([.name, "=", expression], keyword),
      (["**", expression], unpackedKeywords)]
  | _ => []

/-- What may be assigned to, or deleted. -/
def targets : Rule → List Alternative
  | starTargets => [
      ([starTarget, .notAhead ","], nothing),
      ([starTarget, .star (.group [[",", starTarget]]), .opt ","], nothing)]
  | starTargetsListSeq => [([.sep "," starTarget, .opt ","], nothing)]
  | starTargetsTupleSeq => [
      ([starTarget, .plus (.group [[",", starTarget]]), .opt ","], nothing),
      ([starTarget, ","], nothing)]
  | starTarget => [
      (["*", .group [[.notAhead "*", starTarget]]], nothing),
      ([targetWithStarAtom], nothing)]
  | targetWithStarAtom => [
      ([tPrimary, ".", .name, .notAhead tLookahead], nothing),
      ([tPrimary, "[", slices, "]", .notAhead tLookahead], nothing),
      ([starAtom], nothing)]
  | starAtom => [
      ([.name], nothing),
      (["(", targetWithStarAtom, ")"], nothing),
      (["(", .opt starTargetsTupleSeq, ")"], nothing),
      (["[", .opt starTargetsListSeq, "]"], nothing)]
  | singleTarget => [
      ([singleSubscriptAttributeTarget], nothing),
      ([.name], nothing),
      (["(", singleTarget, ")"], nothing)]
  | singleSubscriptAttributeTarget => [
      ([tPrimary, ".", .name, .notAhead tLookahead], nothing),
      ([tPrimary, "[", slices, "]", .notAhead tLookahead], nothing)]
  | tPrimary => [
      ([tPrimary, ".", .name, .ahead tLookahead], nothing),
      ([tPrimary, "[", slices, "]", .ahead tLookahead], nothing),
      ([tPrimary, genexp, .ahead tLookahead], nothing),
      ([tPrimary, "(", .opt Rule.arguments, ")", .ahead tLookahead], nothing),
      ([atom, .ahead tLookahead], nothing)]
  | tLookahead => [(["("], nothing), (["["], nothing), (["."], nothing)]
  | delTargets => [([.sep "," delTarget, .opt ","], nothing)]
  | delTarget => [
      ([tPrimary, ".", .name, .notAhead tLookahead], nothing),
      ([tPrimary, "[", slices, "]", .notAhead tLookahead], nothing),
      ([delTAtom], nothing)]
  | delTAtom => [
      ([.name], nothing),
      (["(", delTarget, ")"], nothing),
      (["(", .opt delTargets, ")"], nothing),
      (["[", .opt delTargets, "]"], nothing)]
  | _ => []

end Grammar

end ProviderRegistry.Source
