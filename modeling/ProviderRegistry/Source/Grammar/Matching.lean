import ProviderRegistry.Source.Grammar

/-!
# The grammar of matches

The statement that compares a subject with patterns, and its patterns. None of it declares
anything.
-/

namespace ProviderRegistry.Source

namespace Build

/-- Does a number have the imaginary mark? -/
def isImaginary (number : Value) : Bool :=
  number.text.toList.getLast?.any fun c => c = 'j' ∨ c = 'J'

/-- A number that must have the imaginary mark, or must not have it. -/
def numberWithMark (mark : Bool) : Builder := fun r =>
  if isImaginary (r.nth 0) = mark then .value .nothing else .wrong (r.lineAt 0)

end Build

namespace Grammar

open Rule
open Build (nothing plain numberWithMark)

/-- Literals in patterns. -/
def literals : List Alternative := [
  ([signedNumber, .notAhead (.group [["+"], ["-"]])], nothing),
  ([complexNumber], nothing),
  ([strings], nothing),
  (["None"], nothing),
  (["True"], nothing),
  (["False"], nothing)]

/-- What must not follow a name or a chain of names in a pattern. -/
def continuesChain : Pattern := .group [["."], ["("], ["="]]

/-- Matches and their patterns. -/
def matching : Rule → List Alternative
  | matchStmt => [
      ([.soft "match", subjectExpr, ":", .newline, .indent, .plus caseBlock, .dedent], nothing),
      ([.wrong wrongMatchStmt], nothing)]
  | subjectExpr => [
      ([starNamedExpression, ",", .opt starNamedExpressions], nothing),
      ([namedExpression], nothing)]
  | caseBlock => [
      ([.wrong wrongCaseBlock], nothing),
      ([.soft "case", patterns, .opt caseGuard, ":", block], nothing)]
  | caseGuard => [(["if", namedExpression], nothing)]
  | patterns => [([openSequencePattern], nothing), ([pattern], nothing)]
  | pattern => [([asPattern], nothing), ([orPattern], nothing)]
  | asPattern => [
      ([orPattern, "as", patternCaptureTarget], nothing),
      ([.wrong wrongAsPattern], nothing)]
  | orPattern => [([.sep "|" closedPattern], nothing)]
  | closedPattern => [
      ([literalPattern], nothing),
      ([capturePattern], nothing),
      ([wildcardPattern], nothing),
      ([valuePattern], nothing),
      ([groupPattern], nothing),
      ([sequencePattern], nothing),
      ([mappingPattern], nothing),
      ([classPattern], nothing)]
  | literalPattern | literalExpr => literals
  | complexNumber => [
      ([signedRealNumber, "+", imaginaryNumber], nothing),
      ([signedRealNumber, "-", imaginaryNumber], nothing)]
  | signedNumber => [([.number], nothing), (["-", .number], nothing)]
  | signedRealNumber => [([realNumber], nothing), (["-", realNumber], nothing)]
  | realNumber => [([.number], numberWithMark false)]
  | imaginaryNumber => [([.number], numberWithMark true)]
  | capturePattern => [([patternCaptureTarget], nothing)]
  | patternCaptureTarget => [([.notAhead (.soft "_"), .name, .notAhead continuesChain], nothing)]
  | wildcardPattern => [([.soft "_"], nothing)]
  | valuePattern => [([attr, .notAhead continuesChain], nothing)]
  | attr => [([nameOrAttr, ".", .name], nothing)]
  | nameOrAttr => [([attr], nothing), ([.name], nothing)]
  | groupPattern => [(["(", pattern, ")"], nothing)]
  | sequencePattern => [
      (["[", .opt maybeSequencePattern, "]"], nothing),
      (["(", .opt openSequencePattern, ")"], nothing)]
  | openSequencePattern => [([maybeStarPattern, ",", .opt maybeSequencePattern], nothing)]
  | maybeSequencePattern => [([.sep "," maybeStarPattern, .opt ","], nothing)]
  | maybeStarPattern => [([starPattern], nothing), ([pattern], nothing)]
  | starPattern => [
      (["*", patternCaptureTarget], nothing),
      (["*", wildcardPattern], nothing)]
  | mappingPattern => [
      (["\x7b", "\x7d"], nothing),
      (["\x7b", doubleStarPattern, .opt ",", "\x7d"], nothing),
      (["\x7b", itemsPattern, ",", doubleStarPattern, .opt ",", "\x7d"], nothing),
      (["\x7b", itemsPattern, .opt ",", "\x7d"], nothing)]
  | itemsPattern => [([.sep "," keyValuePattern], nothing)]
  | keyValuePattern => [([.group [[literalExpr], [attr]], ":", pattern], nothing)]
  | doubleStarPattern => [(["**", patternCaptureTarget], nothing)]
  | classPattern => [
      ([nameOrAttr, "(", ")"], nothing),
      ([nameOrAttr, "(", positionalPatterns, .opt ",", ")"], nothing),
      ([nameOrAttr, "(", keywordPatterns, .opt ",", ")"], nothing),
      ([nameOrAttr, "(", positionalPatterns, ",", keywordPatterns, .opt ",", ")"], nothing),
      ([.wrong wrongClassPattern], nothing)]
  | positionalPatterns => [([.sep "," pattern], plain)]
  | keywordPatterns => [([.sep "," keywordPattern], nothing)]
  | keywordPattern => [([.name, "=", pattern], nothing)]
  | _ => []

end Grammar

end ProviderRegistry.Source
