import ProviderRegistry.Source.Grammar.Statements
import ProviderRegistry.Source.Grammar.Expressions
import ProviderRegistry.Source.Grammar.Matching
import ProviderRegistry.Source.Grammar.Wrong
import Std.Data.HashMap

/-!
# Matching a grammar

Matches the rules of the grammar against tokens: the first alternative that matches is taken, and
no other is tried later. A rule that starts with itself is matched by growing: first without
itself, then again on top of what it matched, as long as it gets further. The results of such
rules, and of some others that are tried often, are remembered for each position.

The furthest token that was looked at is kept, since it is the one to blame for a text that does
not match.
-/

namespace ProviderRegistry.Source

/-- The alternatives of a rule. -/
def Grammar.alternatives (r : Rule) : List Alternative :=
  simpleStatements r ++ compoundStatements r ++ parameterLists r ++ expressions r ++
    expressionLists r ++ lambdas r ++ callArguments r ++ targets r ++ matching r ++
    wrongExpressions r ++ wrongParameterLists r ++ wrongSimpleStatements r ++
    wrongCompoundStatements r

/-- The rules that start with themselves. -/
def Rule.growing : List Rule :=
  [.dottedName, .attr, .bitwiseOr, .bitwiseXor, .bitwiseAnd, .shiftExpr, .sum, .term, .primary,
    .tPrimary]

/-- The other rules whose results are remembered. -/
def Rule.remembered : List Rule :=
  [.simpleStmt, .block, .closedPattern, .starPattern, .expression, .starExpression, .disjunction,
    .conjunction, .inversion, .factor, .awaitPrimary, .strings, .arguments, .starTarget,
    .targetWithStarAtom, .delTarget, .wrongNamedExpression]

/-- What a text is matched with: its tokens, and how its strings are inspected. -/
structure Scene where
  tokens : Tokens
  inspect : List Token → Option StringFault

/-- The state of matching: the position, how many tokens were looked at, whether the rules for what
is wrong are tried, and the results remembered. -/
structure Matcher where
  position : Nat
  seen : Nat
  blaming : Bool
  memo : Std.HashMap (Rule × Nat) (Option Value × Nat)

/-- What comes of matching. -/
inductive MatchResult where
  | found (value : Value) (after : Matcher)
  /-- No match, and whether the alternatives that follow are out of question. -/
  | failed (after : Matcher) (committed : Bool)
  /-- The text is wrong in a line, which is final if its tokens are at fault. -/
  | wrong (line : Nat) (final : Bool) (after : Matcher)

namespace Scene

/-- The token at a position. -/
def token? (scene : Scene) (position : Nat) : Option Token := scene.tokens.tokens[position]?

/-- The line of the furthest token that was looked at. -/
def furthestLine (scene : Scene) (m : Matcher) : Nat :=
  ((scene.token? (m.seen - 1)).map Token.line).getD 0

/-- Matches one token that passes a test. -/
def take (scene : Scene) (m : Matcher) (test : Token → Bool) : MatchResult :=
  match scene.token? m.position with
  | some t =>
    let m := { m with seen := max m.seen (m.position + 1) }
    if test t then .found (.token t) { m with position := m.position + 1 } else .failed m false
  | none =>
    match scene.tokens.ending with
    | .complete => .failed m false
    | .malformed line | .broken line => .wrong line true m

/-- The most digits that a whole number may be written with. -/
def maxDigits : Nat := 4300

/-- Is a number too long? -/
def isTooLong (number : String) : Bool :=
  let digits := number.toList.filter (· != '_')
  maxDigits < digits.length && digits.all Char.isDigit

/-- Matches one number, which must not be too long. -/
def takeNumber (scene : Scene) (m : Matcher) : MatchResult :=
  match scene.take m fun t => t.kind = .number with
  | .found (.token t) m => if isTooLong t.text then .wrong t.line false m else .found (.token t) m
  | result => result

/-- Matches an operator without which the text is wrong. -/
def takeForced (scene : Scene) (m : Matcher) (text : String) : MatchResult :=
  match scene.take m fun t => t.kind = .operator && t.text = text with
  | .failed m _ => .wrong (((scene.token? m.position).map Token.line).getD 0) false m
  | result => result

/-- What an alternative has matched that started at a position. -/
def reading (scene : Scene) (start : Nat) (values : List Value) (m : Matcher) : Reading where
  values := values
  line := ((scene.token? start).map Token.line).getD 0
  furthest := scene.furthestLine m
  depth := ((scene.token? (m.position - 1)).map Token.depth).getD 0
  inspect := scene.inspect

/-- Back at a position. -/
def back (m : Matcher) (position : Nat) : Matcher := { m with position }

/-- Remembers the result of a rule that was tried at a position, and where it led. -/
def remember (r : Rule) (start : Nat) (value : Option Value) (m : Matcher) : Matcher :=
  { m with memo := m.memo.insert (r, start) (value, m.position) }

mutual

/-- Matches a pattern. -/
def pattern (scene : Scene) : Nat → Pattern → Matcher → MatchResult
  | 0, _, m => .failed m false
  | fuel + 1, p, m =>
    let start := m.position
    match p with
    | .name => scene.take m fun t => t.kind = .name
    | .number => scene.takeNumber m
    | .string => scene.take m fun t => t.kind = .string
    | .newline => scene.take m fun t => t.kind = .newline
    | .indent => scene.take m fun t => t.kind = .indent
    | .dedent => scene.take m fun t => t.kind = .dedent
    | .endOfText => scene.take m fun t => t.kind = .endOfText
    | .literal text =>
      scene.take m fun t => (t.kind = .operator || t.kind = .keyword) && t.text = text
    | .soft text => scene.take m fun t => t.kind = .name && t.text = text
    | .anySoft => scene.take m fun t => t.kind = .name && t.text ∈ softKeywords
    | .rule r => scene.rule fuel r m
    | .wrong r => if m.blaming then scene.rule fuel r m else .failed m false
    | .opt p =>
      match scene.pattern fuel p m with
      | .failed after _ => .found .nothing (back after start)
      | result => result
    | .star p => scene.many fuel p [] m
    | .plus p =>
      match scene.many fuel p [] m with
      | .found (.many []) after => .failed after false
      | result => result
    | .sep separator p =>
      match scene.pattern fuel p m with
      | .found first after => scene.manyAfter fuel separator p [first] after
      | result => result
    | .ahead p =>
      match scene.pattern fuel p m with
      | .found _ after => .found .nothing (back after start)
      | result => result
    | .notAhead p =>
      match scene.pattern fuel p m with
      | .found _ after => .failed after false
      | .failed after _ => .found .nothing (back after start)
      | result => result
    | .commit => .found .nothing m
    | .forced text => scene.takeForced m text
    | .group alternatives => scene.group fuel alternatives m

/-- Matches a pattern as often as it matches. -/
def many (scene : Scene) : Nat → Pattern → List Value → Matcher → MatchResult
  | 0, _, _, m => .failed m false
  | fuel + 1, p, values, m =>
    let start := m.position
    match scene.pattern fuel p m with
    | .found value after => scene.many fuel p (value :: values) after
    | .failed after _ => .found (.many values.reverse) (back after start)
    | result => result

/-- Matches a separator and a pattern as often as both match. -/
def manyAfter (scene : Scene) : Nat → Pattern → Pattern → List Value → Matcher → MatchResult
  | 0, _, _, _, m => .failed m false
  | fuel + 1, separator, p, values, m =>
    let start := m.position
    match scene.pattern fuel separator m with
    | .found _ between =>
      match scene.pattern fuel p between with
      | .found value after => scene.manyAfter fuel separator p (value :: values) after
      | .failed after _ => .found (.many values.reverse) (back after start)
      | result => result
    | .failed after _ => .found (.many values.reverse) (back after start)
    | result => result

/-- Matches patterns one after the other. -/
def sequence (scene : Scene) :
    Nat → List Pattern → List Value → Bool → Matcher → MatchResult
  | 0, _, _, _, m => .failed m false
  | _ + 1, [], values, _, m => .found (.many values.reverse) m
  | fuel + 1, p :: ps, values, committed, m =>
    match scene.pattern fuel p m with
    | .found value after =>
      let committed := match p with
        | .commit => true
        | _ => committed
      scene.sequence fuel ps (value :: values) committed after
    | .failed after _ => .failed after committed
    | result => result

/-- Matches the first of some sequences that matches. The value of a single pattern stands for the
sequence. -/
def group (scene : Scene) : Nat → List (List Pattern) → Matcher → MatchResult
  | 0, _, m => .failed m false
  | _ + 1, [], m => .failed m false
  | fuel + 1, ps :: rest, m =>
    let start := m.position
    match scene.sequence fuel ps [] false m with
    | .found (.many [value]) after => .found value after
    | .failed after committed =>
      if committed then .failed after false else scene.group fuel rest (back after start)
    | result => result

/-- Matches the first of some alternatives that matches, and builds what it says. -/
def alternatives (scene : Scene) : Nat → List Alternative → Matcher → MatchResult
  | 0, _, m => .failed m false
  | _ + 1, [], m => .failed m false
  | fuel + 1, (ps, build) :: rest, m =>
    let start := m.position
    match scene.sequence fuel ps [] false m with
    | .found values after =>
      match build (scene.reading start values.toList after) with
      | .value value => .found value after
      | .reject => .failed after false
      | .wrong line => .wrong line false after
    | .failed after committed =>
      if committed then .failed after false else scene.alternatives fuel rest (back after start)
    | result => result

/-- Matches a rule without looking for a remembered result. -/
def ruleAnew (scene : Scene) : Nat → Rule → Matcher → MatchResult
  | 0, _, m => .failed m false
  | fuel + 1, r, m =>
    if r = .expressionWithoutWrong then
      let blaming := m.blaming
      match scene.alternatives fuel (Grammar.alternatives r) { m with blaming := false } with
      | .found value after => .found value { after with blaming }
      | .failed after _ => .failed { after with blaming } false
      | result => result
    else scene.alternatives fuel (Grammar.alternatives r) m

/-- Matches a rule again on top of what it matched, as long as it gets further. -/
def grow (scene : Scene) : Nat → Rule → Nat → Option Value → Nat → Matcher → MatchResult
  | 0, _, _, _, _, m => .failed m false
  | fuel + 1, r, start, best, reached, m =>
    let m := back (remember r start best (back m reached)) start
    let stop (after : Matcher) : MatchResult :=
      match best with
      | some value => .found value (back after reached)
      | none => .failed (back after reached) false
    match scene.ruleAnew fuel r m with
    | .found value after =>
      if after.position ≤ reached then stop after
      else scene.grow fuel r start (some value) after.position after
    | .failed after _ => stop after
    | result => result

/-- Matches a rule. -/
def rule (scene : Scene) : Nat → Rule → Matcher → MatchResult
  | 0, _, m => .failed m false
  | fuel + 1, r, m =>
    let start := m.position
    let grows := r ∈ Rule.growing
    if grows || r ∈ Rule.remembered then
      match m.memo[(r, start)]? with
      | some (some value, position) => .found value (back m position)
      | some (none, position) => .failed (back m position) false
      | none =>
        if grows then scene.grow fuel r start none start m
        else
          match scene.ruleAnew fuel r m with
          | .found value after =>
            .found value (remember r start (some value) after)
          | .failed after _ =>
            .failed (remember r start none after) false
          | result => result
    else scene.ruleAnew fuel r m

end

/-! ### The line to blame -/

/-- The line to blame in the end, given the one found by the rules. A malformed token anywhere
counts first. So does a bracket that is never closed, if the furthest token stands in a later
line. -/
def settle (scene : Scene) (line : Nat) (m : Matcher) : Nat :=
  match scene.tokens.ending with
  | .complete => line
  | .malformed other => other
  | .broken _ =>
    match scene.tokens.openBracket with
    | some bracket => if bracket < scene.furthestLine m then bracket else line
    | none => line

/-- Bounds the depth of matching: no rule gets back to itself without a token in between. -/
def depthFor (scene : Scene) : Nat := 2000 * (scene.tokens.tokens.size + 10)

/-- Matches a rule from the start, with or without the rules for what is wrong. -/
def pass (scene : Scene) (start : Rule) (blaming : Bool) (seen : Nat) : MatchResult :=
  scene.rule scene.depthFor start ⟨0, seen, blaming, ∅⟩

/-- What a rule builds from a text, or the line to blame if it does not match. -/
def parse (scene : Scene) (start : Rule) : Except Nat Value :=
  let settled (line : Nat) (final : Bool) (m : Matcher) : Except Nat Value :=
    .error (if final then line else scene.settle line m)
  match scene.pass start false 0 with
  | .found value _ => .ok value
  | .wrong line final m => settled line final m
  | .failed m _ =>
    match scene.pass start true m.seen with
    | .wrong line final m => settled line final m
    | .found _ after | .failed after _ =>
      match scene.token? (m.seen - 1) with
      | none => .error 0
      | some last =>
        if last.kind = .indent || last.kind = .dedent then .error (scene.furthestLine after)
        else settled last.line false after

end Scene

end ProviderRegistry.Source
