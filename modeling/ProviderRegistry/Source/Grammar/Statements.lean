import ProviderRegistry.Source.Grammar

/-!
# The grammar of statements

Simple statements, the headers and bodies of compound statements, and the parameters of functions.
-/

namespace ProviderRegistry.Source

namespace Build

/-- The name after `as`, if there is one. -/
def aliasOf (value : Value) : Option String := value.tokens.getLast?.map Token.text

/-- A name that is imported, perhaps under another. -/
def importedName : Builder := fun r =>
  .value (.imported [⟨(r.nth 0).text, aliasOf (r.nth 1)⟩])

/-- All names that are imported. -/
def importedNames : Builder := fun r => .value (.imported (Value.allImportedNames r.values))

/-- Imports from a module: the dots before its name, its name, and the names that are imported. -/
def importFrom (dots : Nat) (module? : Option Nat) (names : Nat) : Builder := fun r =>
  let level := (r.nth dots).tokens.foldl (fun n t => n + t.text.length) 0
  let module := module?.map fun i => (r.nth i).text
  .value (.statements [.importFrom level module (r.nth names).importedNames])

/-- A class, from its name, its arguments and its body. -/
def classDef (name arguments body : Nat) : Builder := fun r =>
  .value (.statements [.classDef r.line (r.nth name).text (r.nth arguments).exprs
    (r.nth arguments).keywords [] (r.nth body).stmts])

/-- A function, from its name, its parameters and its body. -/
def functionDef (isAsync : Bool) (name parameters body : Nat) : Builder := fun r =>
  .value (.statements [.functionDef r.line (r.nth name).text isAsync (r.nth parameters).positional
    [] (r.nth body).stmts])

/-- The statement with decorators. -/
def decorate (decorators : List Expr) : Stmt → Stmt
  | .classDef line name bases keywords _ body =>
    .classDef line name bases keywords decorators body
  | .functionDef line name isAsync parameters _ body =>
    .functionDef line name isAsync parameters decorators body
  | s => s

/-- A class or a function with the decorators before it. -/
def decorated : Builder := fun r =>
  .value (.statements ((r.nth 1).stmts.map (decorate (r.nth 0).exprs)))

/-- A parameter and what follows it. -/
def parameter : Builder := fun r => .value (.many [r.nth 0, r.nth 1])

/-- The parameters of all parts. -/
def parameters : Builder := fun r =>
  .value (.parameters ((r.values.map Value.positional).foldl (· ++ ·) {}))

/-- Parameters before a slash. -/
def positionalOnly (parts : List Nat) : Builder := fun r =>
  .value (.parameters
    { positionalOnly := parts.flatMap fun i => (r.nth i).toList.map Value.hasDefault })

/-- Parameters after a star, and those that follow them. -/
def keywordOnly (variadic : Bool) (named : Nat) (rest : Nat) : Builder := fun r =>
  let star : Parameters := { variadic, keywordOnly := (r.nth named).toList.map Value.hasDefault }
  .value (.parameters (star ++ (r.nth rest).positional))

/-- The parameter that takes the other arguments with names. -/
def variadicKeywords : Builder := fun _ => .value (.parameters { variadicKeywords := true })

end Build

namespace Grammar

open Rule
open Build (nothing same importedName decorated parameter positionalOnly keywordOnly
  variadicKeywords)

/-- Texts and simple statements. -/
def simpleStatements : Rule → List Alternative
  | file => [([.opt statements, .endOfText], same 0)]
  | fstring => [([starExpressions], same 0)]
  | statements => [([.plus statement], Build.statements)]
  | statement => [([compoundStmt], same 0), ([simpleStmts], same 0)]
  | simpleStmts => [
      ([simpleStmt, .notAhead ";", .newline], same 0),
      ([.sep ";" simpleStmt, .opt ";", .newline], Build.statements)]
  | simpleStmt => [
      ([assignment], Build.statement),
      ([starExpressions], Build.statement),
      ([.ahead "return", returnStmt], Build.statement),
      ([.ahead (.group [["import"], ["from"]]), importStmt], same 1),
      ([.ahead "raise", raiseStmt], Build.statement),
      (["pass"], Build.statement),
      ([.ahead "del", delStmt], Build.statement),
      ([.ahead "yield", yieldStmt], Build.statement),
      ([.ahead "assert", assertStmt], Build.statement),
      (["break"], Build.statement),
      (["continue"], Build.statement),
      ([.ahead "global", globalStmt], Build.statement),
      ([.ahead "nonlocal", nonlocalStmt], Build.statement)]
  | compoundStmt => [
      ([.ahead (.group [["def"], ["@"], ["async"]]), Rule.functionDef], same 1),
      ([.ahead "if", ifStmt], Build.statement),
      ([.ahead (.group [["class"], ["@"]]), Rule.classDef], same 1),
      ([.ahead (.group [["with"], ["async"]]), withStmt], Build.statement),
      ([.ahead (.group [["for"], ["async"]]), forStmt], Build.statement),
      ([.ahead "try", tryStmt], Build.statement),
      ([.ahead "while", whileStmt], Build.statement),
      ([matchStmt], Build.statement)]
  | assignment => [
      ([.name, ":", expression, .opt (.group [["=", annotatedRhs]])], nothing),
      ([.group [["(", singleTarget, ")"], [singleSubscriptAttributeTarget]], ":", expression,
        .opt (.group [["=", annotatedRhs]])], nothing),
      ([.plus (.group [[starTargets, "="]]), .group [[yieldExpr], [starExpressions]],
        .notAhead "="], nothing),
      ([singleTarget, augAssign, .commit, .group [[yieldExpr], [starExpressions]]], nothing),
      ([.wrong wrongAssignment], nothing)]
  | annotatedRhs => [([yieldExpr], nothing), ([starExpressions], nothing)]
  | augAssign =>
      ["+=", "-=", "*=", "@=", "/=", "%=", "&=", "|=", "^=", "<<=", ">>=", "**=", "//="].map
        fun text => ([.literal text], nothing)
  | returnStmt => [(["return", .opt starExpressions], nothing)]
  | raiseStmt => [
      (["raise", expression, .opt (.group [["from", expression]])], nothing),
      (["raise"], nothing)]
  | globalStmt => [(["global", .sep "," .name], nothing)]
  | nonlocalStmt => [(["nonlocal", .sep "," .name], nothing)]
  | delStmt => [
      (["del", delTargets, .ahead (.group [[";"], [.newline]])], nothing),
      ([.wrong wrongDelStmt], nothing)]
  | yieldStmt => [([yieldExpr], nothing)]
  | assertStmt => [(["assert", expression, .opt (.group [[",", expression]])], nothing)]
  | importStmt => [([importName], same 0), ([Rule.importFrom], same 0)]
  | importName => [(["import", dottedAsNames], fun r =>
      .value (.statements [.importModules (r.nth 1).importedNames]))]
  | Rule.importFrom => [
      (["from", .star (.group [["."], ["..."]]), dottedName, "import", importFromTargets],
        Build.importFrom 1 (some 2) 4),
      (["from", .plus (.group [["."], ["..."]]), "import", importFromTargets],
        Build.importFrom 1 none 3)]
  | importFromTargets => [
      (["(", importFromAsNames, .opt ",", ")"], same 1),
      ([importFromAsNames, .notAhead ","], same 0),
      (["*"], importedName),
      ([.wrong wrongImportFromTargets], nothing)]
  | importFromAsNames => [([.sep "," importFromAsName], Build.importedNames)]
  | importFromAsName => [([.name, .opt (.group [["as", .name]])], importedName)]
  | dottedAsNames => [([.sep "," dottedAsName], Build.importedNames)]
  | dottedAsName => [([dottedName, .opt (.group [["as", .name]])], importedName)]
  | dottedName => [
      ([dottedName, ".", .name], fun r =>
        .value (.dotted ((r.nth 0).text ++ "." ++ (r.nth 2).text))),
      ([.name], same 0)]
  | _ => []

/-- Compound statements. -/
def compoundStatements : Rule → List Alternative
  | block => [
      ([.newline, .indent, statements, .dedent], same 2),
      ([simpleStmts], same 0),
      ([.wrong wrongBlock], nothing)]
  | decorators => [([.plus (.group [["@", namedExpression, .newline]])], same 0)]
  | Rule.classDef => [
      ([decorators, classDefRaw], decorated),
      ([classDefRaw], same 0)]
  | classDefRaw => [
      ([.wrong wrongClassDefRaw], nothing),
      (["class", .name, .opt (.group [["(", .opt Rule.arguments, ")"]]), ":", block],
        Build.classDef 1 2 4)]
  | Rule.functionDef => [
      ([decorators, functionDefRaw], decorated),
      ([functionDefRaw], same 0)]
  | functionDefRaw => [
      ([.wrong wrongDefRaw], nothing),
      (["def", .name, .forced "(", .opt params, ")", .opt (.group [["->", expression]]),
        .forced ":", block], Build.functionDef false 1 3 7),
      (["async", "def", .name, .forced "(", .opt params, ")",
        .opt (.group [["->", expression]]), .forced ":", block], Build.functionDef true 2 4 8)]
  | ifStmt => [
      ([.wrong wrongIfStmt], nothing),
      (["if", namedExpression, ":", block, elifStmt], nothing),
      (["if", namedExpression, ":", block, .opt elseBlock], nothing)]
  | elifStmt => [
      ([.wrong wrongElifStmt], nothing),
      (["elif", namedExpression, ":", block, elifStmt], nothing),
      (["elif", namedExpression, ":", block, .opt elseBlock], nothing)]
  | elseBlock => [
      ([.wrong wrongElseStmt], nothing),
      (["else", .forced ":", block], nothing)]
  | whileStmt => [
      ([.wrong wrongWhileStmt], nothing),
      (["while", namedExpression, ":", block, .opt elseBlock], nothing)]
  | forStmt => [
      ([.wrong wrongForStmt], nothing),
      (["for", starTargets, "in", .commit, starExpressions, .forced ":", block, .opt elseBlock],
        nothing),
      (["async", "for", starTargets, "in", .commit, starExpressions, .forced ":", block,
        .opt elseBlock], nothing),
      ([.wrong wrongForTarget], nothing)]
  | withStmt => [
      ([.wrong wrongWithStmtIndent], nothing),
      (["with", "(", .sep "," withItem, .opt ",", ")", ":", block], nothing),
      (["with", .sep "," withItem, ":", block], nothing),
      (["async", "with", "(", .sep "," withItem, .opt ",", ")", ":", block], nothing),
      (["async", "with", .sep "," withItem, ":", block], nothing),
      ([.wrong wrongWithStmt], nothing)]
  | withItem => [
      ([expression, "as", starTarget, .ahead (.group [[","], [")"], [":"]])], nothing),
      ([.wrong wrongWithItem], nothing),
      ([expression], nothing)]
  | tryStmt => [
      ([.wrong wrongTryStmt], nothing),
      (["try", .forced ":", block, finallyBlock], nothing),
      (["try", .forced ":", block, .plus exceptBlock, .opt elseBlock, .opt finallyBlock], nothing),
      (["try", .forced ":", block, .plus exceptStarBlock, .opt elseBlock, .opt finallyBlock],
        nothing)]
  | exceptBlock => [
      ([.wrong wrongExceptStmtIndent], nothing),
      (["except", expression, .opt (.group [["as", .name]]), ":", block], nothing),
      (["except", ":", block], nothing),
      ([.wrong wrongExceptStmt], nothing)]
  | exceptStarBlock => [
      ([.wrong wrongExceptStarStmtIndent], nothing),
      (["except", "*", expression, .opt (.group [["as", .name]]), ":", block], nothing),
      ([.wrong wrongExceptStmt], nothing)]
  | finallyBlock => [
      ([.wrong wrongFinallyStmt], nothing),
      (["finally", .forced ":", block], nothing)]
  | _ => []

/-- The parameters of functions. -/
def parameterLists : Rule → List Alternative
  | params => [([.wrong wrongParameters], nothing), ([Rule.parameters], same 0)]
  | Rule.parameters => [
      ([slashNoDefault, .star paramNoDefault, .star paramWithDefault, .opt starEtc],
        Build.parameters),
      ([slashWithDefault, .star paramWithDefault, .opt starEtc], Build.parameters),
      ([.plus paramNoDefault, .star paramWithDefault, .opt starEtc], Build.parameters),
      ([.plus paramWithDefault, .opt starEtc], Build.parameters),
      ([starEtc], same 0)]
  | slashNoDefault => [
      ([.plus paramNoDefault, "/", ","], positionalOnly [0]),
      ([.plus paramNoDefault, "/", .ahead ")"], positionalOnly [0])]
  | slashWithDefault => [
      ([.star paramNoDefault, .plus paramWithDefault, "/", ","], positionalOnly [0, 1]),
      ([.star paramNoDefault, .plus paramWithDefault, "/", .ahead ")"], positionalOnly [0, 1])]
  | starEtc => [
      ([.wrong wrongStarEtc], nothing),
      (["*", paramNoDefault, .star paramMaybeDefault, .opt kwds], keywordOnly true 2 3),
      (["*", paramNoDefaultStarHint, .star paramMaybeDefault, .opt kwds],
        keywordOnly true 2 3),
      (["*", ",", .plus paramMaybeDefault, .opt kwds], keywordOnly false 2 3),
      ([kwds], same 0)]
  | kwds => [([.wrong wrongKwds], nothing), (["**", paramNoDefault], variadicKeywords)]
  | paramNoDefault => [([param, ","], same 0), ([param, .ahead ")"], same 0)]
  | paramNoDefaultStarHint => [
      ([paramStarHint, ","], same 0),
      ([paramStarHint, .ahead ")"], same 0)]
  | paramWithDefault => [
      ([param, defaultValue, ","], parameter),
      ([param, defaultValue, .ahead ")"], parameter)]
  | paramMaybeDefault => [
      ([param, .opt defaultValue, ","], parameter),
      ([param, .opt defaultValue, .ahead ")"], parameter)]
  | param => [([.name, .opt typeHint], same 0)]
  | paramStarHint => [([.name, starHint], same 0)]
  | typeHint => [([":", expression], nothing)]
  | starHint => [([":", starExpression], nothing)]
  | defaultValue => [(["=", expression], same 1), ([.wrong wrongDefault], nothing)]
  | _ => []

end Grammar

end ProviderRegistry.Source
