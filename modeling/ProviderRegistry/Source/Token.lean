/-!
# Tokens of a source text

What a source text is made of once its characters are grouped: names, keywords, numbers, strings
and operators, the ends of logical lines, and the places where the indentation grows or shrinks. A
text that is wrong in its tokens has a last token and a reason why there is no next one (`Ending`).
-/

namespace ProviderRegistry.Source

/-- The kinds of tokens. -/
inductive TokenKind where
  | name
  | keyword
  | number
  | string
  | operator
  | newline
  | indent
  | dedent
  | endOfText
  deriving DecidableEq, Repr

/-- A token: its text, the line that it starts in, and the number of brackets that are open after
it. -/
structure Token where
  kind : TokenKind
  text : String
  line : Nat
  depth : Nat
  deriving Repr

/-- Why there is no token after the last one. -/
inductive Ending where
  /-- The text is at its end. -/
  | complete
  /-- A token is malformed, which counts before anything that is wrong in a line before it. -/
  | malformed (line : Nat)
  /-- Lines do not fit together: indentation that matches no line, a bracket that is never closed,
  a line that is continued by nothing. The line is the one to name when a reader gets here. -/
  | broken (line : Nat)
  deriving Repr

/-- A source text as tokens: the tokens, why they end, and the line of the innermost bracket that
is open there. -/
structure Tokens where
  tokens : Array Token
  ending : Ending
  openBracket : Option Nat

/-- The words that are never names. -/
def keywords : List String :=
  ["False", "None", "True", "and", "as", "assert", "async", "await", "break", "class", "continue",
    "def", "del", "elif", "else", "except", "finally", "for", "from", "global", "if", "import",
    "in", "is", "lambda", "nonlocal", "not", "or", "pass", "raise", "return", "try", "while",
    "with", "yield"]

/-- The names that are keywords in some places only. -/
def softKeywords : List String := ["_", "case", "match"]

/-- The operators of three characters. -/
def operators3 : List String := ["**=", "//=", "<<=", ">>=", "..."]

/-- The operators of two characters. -/
def operators2 : List String :=
  ["!=", "%=", "&=", "**", "*=", "+=", "-=", "->", "//", "/=", ":=", "<<", "<=", "<>", "==", ">=",
    ">>", "@=", "^=", "|="]

end ProviderRegistry.Source
