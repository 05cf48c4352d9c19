import ProviderRegistry.Source.Grammar
import ProviderRegistry.Source.Lexer

/-!
# Inside strings

Adjacent strings are one literal, so either all of them hold octets or none does. Octets are
written in ASCII; escapes must be complete; and a string with fields holds expressions between
braces, each of which must be an expression of its own. Doubled braces outside of fields stand for
themselves.
-/

namespace ProviderRegistry.Source

/-- A string, taken apart: its marks, what stands between its quotes, and its first line. -/
structure StringParts where
  raw : Bool
  octets : Bool
  fields : Bool
  body : List Char
  line : Nat

namespace StringParts

/-- Takes a string apart. -/
def ofToken (token : Token) : StringParts :=
  let isQuote (c : Char) : Bool := c = '"' || c = '\''
  let marks := token.text.toList.takeWhile (!isQuote ·)
  let quoted := token.text.toList.dropWhile (!isQuote ·)
  let q := quoted.headD '"'
  let width := if [q, q, q].isPrefixOf quoted && 6 ≤ quoted.length then 3 else 1
  let has (c : Char) : Bool := marks.any fun m => m.toLower = c
  { raw := has 'r', octets := has 'b', fields := has 'f'
    body := (quoted.drop width).take (quoted.length - 2 * width)
    line := token.line }

end StringParts

/-! ### Escapes -/

/-- Are the next characters as many hexadecimal digits? -/
def hexFollows (width : Nat) (cs : List Char) : Bool :=
  let digits := cs.take width
  digits.length = width && digits.all Text.isHexDigit

/-- The number that hexadecimal digits stand for. -/
def hexValue (digits : List Char) : Nat :=
  digits.foldl (fun n c =>
    16 * n + (if c.isDigit then c.toNat - 48 else c.toLower.toNat - 87)) 0

/-- Are all escapes of a text complete, and do they stand for characters? -/
def escapesAreComplete : List Char → Bool
  | [] => true
  | '\\' :: c :: rest =>
    let complete :=
      if c = 'x' then hexFollows 2 rest
      else if c = 'u' then hexFollows 4 rest
      else if c = 'U' then hexFollows 8 rest && hexValue (rest.take 8) ≤ 0x10ffff
      else if c = 'N' then
        rest.head? = some '\x7b' && (rest.drop 1).head? ≠ some '\x7d' && '\x7d' ∈ rest
      else true
    complete && escapesAreComplete rest
  | _ :: rest => escapesAreComplete rest

/-- Are all escapes of octets complete? -/
def octetEscapesAreComplete : List Char → Bool
  | [] => true
  | '\\' :: c :: rest => (c ≠ 'x' || hexFollows 2 rest) && octetEscapesAreComplete rest
  | _ :: rest => octetEscapesAreComplete rest

/-! ### Fields -/

/-- The deepest nesting of brackets in a field. -/
def maxFieldDepth : Nat := 200

/-- The expression at the start of a field, and what follows it. While it is read, `quote` has the
quote of the string that one is in, and whether that is a long one, and `opened` the brackets that
are open. -/
def fieldExpression (quote : Option (Char × Bool)) (opened : List Char) (found : List Char) :
    List Char → Except StringFault (List Char × List Char)
  | [] => if quote.isSome || !opened.isEmpty then .error .atEnd else .ok (found.reverse, [])
  | c :: rest =>
    if c = '\\' then .error .atEnd
    else
      match quote with
      | some (q, long) =>
        if c = q then
          if long then
            match rest with
            | a :: b :: more =>
              if a = q ∧ b = q then fieldExpression none opened (b :: a :: c :: found) more
              else fieldExpression quote opened (c :: found) (a :: b :: more)
            | rest => fieldExpression quote opened (c :: found) rest
          else fieldExpression none opened (c :: found) rest
        else fieldExpression quote opened (c :: found) rest
      | none =>
        if c = '"' ∨ c = '\'' then
          match rest with
          | a :: b :: more =>
            if a = c ∧ b = c then
              fieldExpression (some (c, true)) opened (b :: a :: c :: found) more
            else fieldExpression (some (c, false)) opened (c :: found) (a :: b :: more)
          | rest => fieldExpression (some (c, false)) opened (c :: found) rest
        else if (Lexer.closing c).isSome then
          if maxFieldDepth ≤ opened.length then .error .atEnd
          else fieldExpression none (c :: opened) (c :: found) rest
        else if c = '#' then .error .atEnd
        else if opened.isEmpty ∧ c ∈ ['!', ':', '\x7d', '=', '>', '<'] then
          match rest with
          | '=' :: more =>
            if c ∈ ['!', '=', '<', '>'] then fieldExpression none opened ('=' :: c :: found) more
            else .ok (found.reverse, c :: '=' :: more)
          | rest =>
            if c = '>' ∨ c = '<' then fieldExpression none opened (c :: found) rest
            else .ok (found.reverse, c :: rest)
        else if c ∈ [')', ']', '\x7d'] then
          match opened with
          | o :: opened =>
            if Lexer.closing o = some c then fieldExpression none opened (c :: found) rest
            else .error .atEnd
          | [] => .error .atEnd
        else fieldExpression none opened (c :: found) rest

/-- What stands before a field or at the end: the text, whether it ends with a doubled brace, and
what follows. -/
abbrev FieldText := List Char × Bool × List Char

/-- A brace after some text. Only at the top level a brace can be doubled, and a closing one must
be. -/
def atBrace (level : Nat) (found : List Char) (c : Char) (rest : List Char) :
    Except StringFault FieldText :=
  if level = 0 then
    if rest.head? = some c then .ok ((c :: found).reverse, true, rest.drop 1)
    else if c = '\x7d' then .error .atEnd
    else .ok (found.reverse, false, c :: rest)
  else .ok (found.reverse, false, c :: rest)

/-- The text before the next field. The name of a character in an escape stands between braces
that open no field; `inName` says that one is in there. -/
def fieldText (raw : Bool) (level : Nat) (inName : Bool) (found : List Char) :
    List Char → Except StringFault FieldText
  | [] => .ok (found.reverse, false, [])
  | c :: rest =>
    if inName then fieldText raw level (c ≠ '\x7d') (c :: found) rest
    else if !raw ∧ c = '\\' then
      match rest with
      | [] => .ok ((c :: found).reverse, false, [])
      | d :: more =>
        if d = '\x7b' ∨ d = '\x7d' then atBrace level (c :: found) d more
        else if d = 'N' then
          match more with
          | [] => .ok ((d :: c :: found).reverse, false, [])
          | e :: more => fieldText raw level (e = '\x7b') (e :: d :: c :: found) more
        else fieldText raw level false (d :: c :: found) more
    else if c = '\x7b' ∨ c = '\x7d' then atBrace level found c rest
    else fieldText raw level false (c :: found) rest

/-- A place in a string with fields. -/
structure FieldPlace where
  rest : List Char
  line : Nat

/-- The place after some characters. -/
def FieldPlace.after (place : FieldPlace) (passed rest : List Char) : FieldPlace :=
  ⟨rest, place.line + passed.countP (· == '\n')⟩

/-- Blanks that may stand around an expression. -/
def isFieldBlank (c : Char) : Bool := c = ' ' || c = '\t' || c = '\n' || c = '\x0c'

/-- After an expression its own text may be asked for, by an equals sign and blanks. -/
def afterEquals (place : FieldPlace) : FieldPlace :=
  match place.rest with
  | '=' :: rest =>
    let isSpace (c : Char) : Bool := isFieldBlank c || c = '\r' || c = '\x0b'
    place.after (rest.takeWhile isSpace) (rest.dropWhile isSpace)
  | _ => place

/-- Then a conversion may follow. -/
def afterConversion (place : FieldPlace) : Except StringFault FieldPlace :=
  match place.rest with
  | '!' :: c :: rest =>
    if c ∈ ['s', 'r', 'a'] then .ok { place with rest } else .error .atEnd
  | ['!'] => .error .atEnd
  | _ => .ok place

mutual

/-- Inspects text with fields up to its end, or to the brace that closes the field around it. -/
def inspectFields (inner : Nat → List Char → Option Nat) (raw : Bool) :
    Nat → Nat → FieldPlace → Except StringFault FieldPlace
  | 0, _, place => .ok place
  | fuel + 1, level, place => do
    let (text, doubled, rest) ← fieldText raw level false [] place.rest
    if !raw && !escapesAreComplete text then throw .atEnd
    let place := place.after text rest
    if doubled then inspectFields inner raw fuel level place
    else
      match rest with
      | '\x7b' :: rest =>
        let place ← inspectField inner raw fuel level { place with rest }
        inspectFields inner raw fuel level place
      | _ => return place

/-- Inspects a field, from what follows its opening brace on. -/
def inspectField (inner : Nat → List Char → Option Nat) (raw : Bool) :
    Nat → Nat → FieldPlace → Except StringFault FieldPlace
  | 0, _, place => .ok place
  | fuel + 1, level, place => do
    if 2 ≤ level then throw .atEnd
    let (expression, rest) ← fieldExpression none [] [] place.rest
    if rest.isEmpty || expression.all isFieldBlank then throw .atEnd
    match inner place.line ('(' :: expression ++ [')']) with
    | some line => throw (.inside line)
    | none =>
      let place ← afterConversion (afterEquals (place.after expression rest))
      let place ← match place.rest with
        | [':'] => throw .atEnd
        | ':' :: rest => inspectFields inner raw fuel (level + 1) { place with rest }
        | _ => pure place
      match place.rest with
      | '\x7d' :: rest => return { place with rest }
      | _ => throw .atEnd

end

/-! ### Literals -/

/-- What is wrong with a string on its own, where `inner` finds the line to blame in an expression
that starts in a line. -/
def inspectString (parts : StringParts) : Option StringFault :=
  if parts.fields then none
  else if parts.octets then
    if parts.body.any fun c => 128 ≤ c.toNat then some (.inside parts.line)
    else if parts.raw || octetEscapesAreComplete parts.body then none
    else some .atEnd
  else if parts.raw || escapesAreComplete parts.body then none
  else some .atEnd

/-- What is wrong with the fields of a string. -/
def inspectFieldsOf (inner : Nat → List Char → Option Nat) (parts : StringParts) :
    Option StringFault :=
  if parts.fields then
    match inspectFields inner parts.raw (2 * parts.body.length + 2) 0 ⟨parts.body, parts.line⟩ with
    | .ok _ => none
    | .error fault => some fault
  else none

/-- What is wrong with adjacent strings, where the first is known to follow one of octets or one of
characters, if any. -/
def inspectStringsAfter (inner : Nat → List Char → Option Nat) (octets : Option Bool) :
    List StringParts → Option StringFault
  | [] => none
  | parts :: rest =>
    inspectString parts
      <|> (if octets.any (· != parts.octets) then some .atEnd else none)
      <|> inspectFieldsOf inner parts
      <|> inspectStringsAfter inner (some parts.octets) rest

/-- What is wrong with adjacent strings, where `inner` finds the line to blame in an expression,
given the line that it starts in. -/
def inspectStrings (inner : Nat → List Char → Option Nat) (tokens : List Token) :
    Option StringFault :=
  inspectStringsAfter inner none (tokens.map StringParts.ofToken)

end ProviderRegistry.Source
