import ProviderRegistry.Source.Token
import ProviderRegistry.Text.Digit
import ProviderRegistry.Text.Identifier
import ProviderRegistry.Text.Normal

/-!
# From characters to tokens

The tokens of a source text. Indentation is measured twice, with wide and with narrow tabs, and
both measures must agree on which lines belong together. Inside brackets the ends of lines do not
count, nor does the indentation.

A piece of a text is cut off its front: `Cut` holds the piece and what is left.
-/

namespace ProviderRegistry.Source

/-- A piece cut off the front of a text, and the rest. -/
structure Cut where
  piece : List Char
  rest : List Char

/-- The cut with one more character in front of its piece. -/
def Cut.cons (c : Char) (cut : Cut) : Cut := { cut with piece := c :: cut.piece }

/-- The cut with a piece put in front of its own. -/
def Cut.after (piece : List Char) (cut : Cut) : Cut := { cut with piece := piece ++ cut.piece }

/-! ### Words -/

/-- May a character stand in a word? Beyond ASCII that is decided once the word is known. -/
def isWordChar (c : Char) : Bool := c.isAlphanum || c == '_' || 128 ≤ c.toNat

/-- May a character start a word? -/
def startsWord (c : Char) : Bool := isWordChar c && !c.isDigit

/-- Is a word a name or a keyword? -/
def isIdentifier : List Char → Bool
  | [] => false
  | c :: rest => Text.startsIdentifier c && rest.all Text.continuesIdentifier

/-- The words that may stand directly before the quote of a string. -/
def stringMarks : List String := ["b", "u", "r", "f", "br", "rb", "fr", "rf"]

/-- Does a word belong to the string that follows it? -/
def marksString (word : List Char) : Bool :=
  String.ofList (word.map Char.toLower) ∈ stringMarks

/-! ### Strings -/

/-- The rest of a string that ends at the next quote in its line. -/
def shortString (q : Char) : List Char → Option Cut
  | [] => none
  | '\\' :: c :: rest => (shortString q rest).map fun cut => (cut.cons c).cons '\\'
  | c :: rest =>
    if c = q then some ⟨[c], rest⟩
    else if c = '\n' then none
    else (shortString q rest).map (Cut.cons c)

/-- The rest of a string that ends at the next three quotes. -/
def longString (q : Char) : List Char → Option Cut
  | [] => none
  | '\\' :: c :: rest => (longString q rest).map fun cut => (cut.cons c).cons '\\'
  | c :: rest =>
    if [c, c, c] = [q, q, q] ∧ [q, q].isPrefixOf rest then some ⟨[q, q, q], rest.drop 2⟩
    else (longString q rest).map (Cut.cons c)

/-- A string from its first quote on. -/
def stringLiteral (q : Char) (cs : List Char) : Option Cut :=
  if [q, q, q].isPrefixOf cs then (longString q (cs.drop 3)).map (Cut.after [q, q, q])
  else (shortString q (cs.drop 1)).map (Cut.cons q)

/-! ### Numbers -/

/-- Digits, with single underscores between them. -/
def digitRun (isDigit : Char → Bool) : List Char → Option Cut
  | [] => some ⟨[], []⟩
  | c :: rest =>
    if isDigit c then (digitRun isDigit rest).map (Cut.cons c)
    else if c = '_' then
      if rest.head?.any isDigit then (digitRun isDigit rest).map (Cut.cons c) else none
    else some ⟨[], c :: rest⟩

/-- Is a word next, and nothing else of a word? -/
def wordFollows (word : String) (cs : List Char) : Bool :=
  word.toList.isPrefixOf cs && !(cs.drop word.length).head?.any isWordChar

/-- May a number end here? A word may follow directly only if it is an operator. -/
def numberEnds (cs : List Char) : Bool :=
  ["and", "else", "for", "or", "not"].any (wordFollows · cs) ||
    ["if", "in", "is"].any (fun word => word.toList.isPrefixOf cs) ||
    !cs.head?.any isWordChar

/-- A number that may end where it is cut off. -/
def endNumber (cut : Cut) : Option Cut := if numberEnds cut.rest then some cut else none

/-- Digits in a base, after its mark. -/
def basedNumber (isDigit : Char → Bool) (cs : List Char) : Option Cut := do
  let cut ← digitRun isDigit cs
  if cut.piece.isEmpty || cut.rest.head?.any Char.isDigit then none else endNumber cut

/-- The imaginary mark, if there is one, and the end. -/
def imaginaryPart (cut : Cut) : Option Cut :=
  match cut.rest with
  | c :: rest => if c = 'j' ∨ c = 'J' then endNumber ⟨cut.piece ++ [c], rest⟩ else endNumber cut
  | [] => some cut

/-- The exponent, if there is one, and what follows it. -/
def exponentPart (cut : Cut) : Option Cut :=
  match cut.rest with
  | e :: rest =>
    if e = 'e' ∨ e = 'E' then
      let (sign, digits) := match rest with
        | s :: more => if s = '+' ∨ s = '-' then ([s], more) else ([], rest)
        | [] => ([], [])
      if digits.head?.any Char.isDigit then do
        let run ← digitRun Char.isDigit digits
        imaginaryPart (run.after (cut.piece ++ e :: sign))
      else if sign.isEmpty then endNumber cut
      else none
    else imaginaryPart cut
  | [] => some cut

/-- What follows the point of a number. -/
def fractionPart (cut : Cut) : Option Cut :=
  if cut.rest.head?.any Char.isDigit then do
    let run ← digitRun Char.isDigit cut.rest
    exponentPart (run.after cut.piece)
  else exponentPart cut

/-- A number in base ten. Only zero may start with a zero, unless the number has a point, an
exponent or an imaginary mark. -/
def decimalNumber (cs : List Char) : Option Cut := do
  let run ← digitRun Char.isDigit cs
  match run.rest with
  | '.' :: rest => fractionPart ⟨run.piece ++ ['.'], rest⟩
  | c :: _ =>
    if c ∈ ['e', 'E', 'j', 'J'] then exponentPart run
    else if run.piece.head? = some '0' ∧ run.piece.any fun d => d ≠ '0' ∧ d ≠ '_' then none
    else endNumber run
  | [] => some run

/-- A number, from its first digit on. -/
def numberLiteral (cs : List Char) : Option Cut :=
  match cs with
  | '0' :: mark :: rest =>
    let based (isDigit : Char → Bool) := (basedNumber isDigit rest).map (Cut.after ['0', mark])
    if mark = 'x' ∨ mark = 'X' then based Text.isHexDigit
    else if mark = 'o' ∨ mark = 'O' then based fun c => '0' ≤ c && c ≤ '7'
    else if mark = 'b' ∨ mark = 'B' then based fun c => c == '0' || c == '1'
    else decimalNumber cs
  | cs => decimalNumber cs

/-! ### Indentation -/

/-- The indentation of a line: with tabs that reach to multiples of eight, with tabs of one column,
and where the first continued line stood. -/
structure Indentation where
  wide : Nat
  narrow : Nat
  continued : Nat

/-- Measures the indentation in front of a line, which a backslash may continue in the next line.
What follows starts with a backslash only where that is followed by no line. -/
def measureIndentation (line : Nat) (found : Indentation) :
    List Char → Indentation × List Char × Nat
  | ' ' :: rest =>
    measureIndentation line
      { found with wide := found.wide + 1, narrow := found.narrow + 1 } rest
  | '\t' :: rest =>
    measureIndentation line
      { found with wide := (found.wide / 8 + 1) * 8, narrow := found.narrow + 1 } rest
  | '\x0c' :: rest => measureIndentation line { found with wide := 0, narrow := 0 } rest
  | '\\' :: '\n' :: c :: rest =>
    measureIndentation (line + 1)
      { found with continued := if found.continued = 0 then found.wide else found.continued }
      (c :: rest)
  | rest => (found, rest, line)

/-! ### Lexing -/

/-- The state in the middle of a text. Levels of indentation and brackets have the innermost one
first. -/
structure Lexer where
  rest : List Char
  line : Nat
  lineStart : Bool
  levels : List (Nat × Nat)
  brackets : List (Char × Nat)
  tokens : Array Token

namespace Lexer

/-- The state with one more token. -/
def emit (l : Lexer) (kind : TokenKind) (text : String) : Lexer :=
  { l with tokens := l.tokens.push ⟨kind, text, l.line, l.brackets.length⟩ }

/-- The tokens so far, and why there are no more. -/
def stop (l : Lexer) (ending : Ending) : Tokens :=
  ⟨l.tokens, ending, l.brackets.head?.map (·.2)⟩

/-- The line after an end of line, if there is anything in it. -/
def lineAfter (line : Nat) (rest : List Char) : Nat := if rest.isEmpty then line else line + 1

/-- A backslash that is followed by no line. At the end of the text an open bracket is the
cause. -/
def stopAtBackslash (l : Lexer) (rest : List Char) : Tokens :=
  if rest = ['\\', '\n'] then l.stop (.broken ((l.brackets.head?.map (·.2)).getD l.line))
  else l.stop (.broken l.line)

/-- The most levels of indentation, and the most brackets. -/
def maxLevels : Nat := 100

@[inherit_doc maxLevels]
def maxBrackets : Nat := 200

/-- The level of a line compared with the lines before it. -/
def indentTo (l : Lexer) (wide narrow : Nat) : Except Tokens Lexer :=
  let broken : Except Tokens Lexer := .error (l.stop (.broken l.line))
  let top := l.levels.headD (0, 0)
  if wide = top.1 then
    if narrow = top.2 then .ok l else broken
  else if top.1 < wide then
    if maxLevels ≤ l.levels.length || narrow ≤ top.2 then broken
    else .ok ({ l with levels := (wide, narrow) :: l.levels }.emit .indent "")
  else
    let kept := l.levels.dropWhile fun level => wide < level.1
    if kept.head? = some (wide, narrow) then
      let closed := l.levels.length - kept.length
      .ok (closed.repeat (fun l => l.emit .dedent "") { l with levels := kept })
    else broken

/-- Reads the start of a line. A line without a token leaves no trace. -/
def startLine (l : Lexer) : Except Tokens Lexer :=
  let (indentation, rest, line) := measureIndentation l.line ⟨0, 0, 0⟩ l.rest
  match rest with
  | '\\' :: _ => .error ({ l with line }.stopAtBackslash rest)
  | '#' :: _ | '\n' :: _ =>
    let rest := (rest.dropWhile (· != '\n')).drop 1
    .ok { l with rest, line := lineAfter line rest }
  | rest =>
    let l := { l with rest, line, lineStart := false }
    if !l.brackets.isEmpty then .ok l
    else if indentation.continued = 0 then l.indentTo indentation.wide indentation.narrow
    else l.indentTo indentation.continued indentation.continued

/-- The bracket that closes another. -/
def closing : Char → Option Char
  | '(' => some ')'
  | '[' => some ']'
  | '\x7b' => some '\x7d'
  | _ => none

/-- Reads an operator. A bracket must close the innermost one that is open. -/
def operator (l : Lexer) (c : Char) : Except Tokens Lexer :=
  let malformed : Except Tokens Lexer := .error (l.stop (.malformed l.line))
  let taken (n : Nat) : Option String :=
    let text := l.rest.take n
    if text.length = n then some (String.ofList text) else none
  let cut (text : String) (l : Lexer) : Lexer :=
    { l with rest := l.rest.drop text.length }.emit .operator text
  match (taken 3).filter (· ∈ operators3), (taken 2).filter (· ∈ operators2) with
  | some text, _ => .ok (cut text l)
  | none, some text => .ok (cut text l)
  | none, none =>
    let text := String.singleton c
    if (closing c).isSome then
      if maxBrackets ≤ l.brackets.length then malformed
      else .ok (cut text { l with brackets := (c, l.line) :: l.brackets })
    else if c ∈ [')', ']', '\x7d'] then
      match l.brackets with
      | (opening, _) :: brackets =>
        if closing opening = some c then .ok (cut text { l with brackets }) else malformed
      | [] => malformed
    else if c.toNat < 32 || c.toNat = 127 then malformed
    else .ok (cut text l)

/-- Takes a string that was cut off, with what marks it. -/
def takeString (l : Lexer) (mark : List Char) : Option Cut → Except Tokens Lexer
  | none => .error (l.stop (.malformed l.line))
  | some cut =>
    let ends := cut.piece.countP (· == '\n')
    .ok { l.emit .string (String.ofList (mark ++ cut.piece)) with
      rest := cut.rest, line := l.line + ends }

/-- Reads a word, which may turn out to mark a string. A keyword is known by its spelling, and a
name by its normal form. -/
def word (l : Lexer) : Except Tokens Lexer :=
  let word := l.rest.takeWhile isWordChar
  let rest := l.rest.dropWhile isWordChar
  let isString := marksString word && (rest.head? = some '"' || rest.head? = some '\'')
  if isString then l.takeString word (stringLiteral (rest.headD '"') rest)
  else if isIdentifier word then
    let text := String.ofList word
    if text ∈ keywords then .ok ({ l with rest }.emit .keyword text)
    else .ok ({ l with rest }.emit .name (String.ofList (Text.normalIdentifier word)))
  else .error (l.stop (.malformed l.line))

/-- Reads on inside a line. -/
def step (l : Lexer) : Except Tokens Lexer :=
  match l.rest with
  | [] =>
    match l.brackets with
    | (_, line) :: _ => .error (l.stop (.broken line))
    | [] => .error ((l.emit .endOfText "").stop .complete)
  | '#' :: rest => .ok { l with rest := rest.dropWhile (· != '\n') }
  | '\n' :: rest =>
    let l := if l.brackets.isEmpty then l.emit .newline "" else l
    .ok { l with rest, line := lineAfter l.line rest, lineStart := true }
  | '\\' :: '\n' :: c :: rest => .ok { l with rest := c :: rest, line := l.line + 1 }
  | '\\' :: _ => .error (l.stopAtBackslash l.rest)
  | c :: rest =>
    if c = ' ' ∨ c = '\t' ∨ c = '\x0c' then .ok { l with rest }
    else if startsWord c then l.word
    else if c.isDigit || (c = '.' && rest.head?.any Char.isDigit) then
      let cut := if c = '.' then fractionPart ⟨['.'], rest⟩ else numberLiteral l.rest
      match cut with
      | none => .error (l.stop (.malformed l.line))
      | some cut => .ok { l.emit .number (String.ofList cut.piece) with rest := cut.rest }
    else if c = '"' ∨ c = '\'' then l.takeString [] (stringLiteral c l.rest)
    else l.operator c

/-- Reads on until there are no more tokens. Each step takes a character or enters a line. -/
def run : Nat → Lexer → Tokens
  | 0, l => l.stop .complete
  | fuel + 1, l =>
    match if l.lineStart then l.startLine else l.step with
    | .ok l => run fuel l
    | .error tokens => tokens

end Lexer

/-- The tokens of a text whose first line has the given number. The last line counts as ended. -/
def tokensOf (firstLine : Nat) (text : List Char) : Tokens :=
  let text := if text.getLast? = some '\n' then text else text ++ ['\n']
  Lexer.run (2 * text.length + 2) ⟨text, firstLine, true, [(0, 0)], [], #[]⟩

end ProviderRegistry.Source
