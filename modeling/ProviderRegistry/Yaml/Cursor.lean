import ProviderRegistry.Yaml.Token
import ProviderRegistry.Text.Utf8

/-!
# Places in a YAML text

A **cursor** is a place in a text: what follows it, and the line and the column it stands in. The
parts of a text that need no knowledge of the layout around them are read from a cursor alone:
names, tags, directives and quoted texts.

Loops are given as much fuel as there are characters left; every turn takes at least one.
-/

namespace ProviderRegistry.Yaml

/-- A place in a text. -/
structure Cursor where
  rest : List Char
  index : Nat
  line : Nat
  column : Nat

namespace Cursor

/-- The next character. -/
def peek (c : Cursor) : Option Char := c.rest.head?

/-- The character after so many others. -/
def peekAt (c : Cursor) (n : Nat) : Option Char := (c.rest.drop n).head?

/-- The place after the next character. A byte order mark takes no column. -/
def next (c : Cursor) : Cursor :=
  match c.rest with
  | [] => c
  | x :: rest =>
    if isBreak x then ⟨rest, c.index + 1, c.line + 1, 0⟩
    else if x = Char.ofNat 0xfeff then { c with rest, index := c.index + 1 }
    else ⟨rest, c.index + 1, c.line, c.column + 1⟩

/-- The place after so many characters. -/
def skip (n : Nat) (c : Cursor) : Cursor := n.repeat next c

/-- The characters of a kind that follow, and the place after them. -/
def takeWhile (c : Cursor) (p : Char → Bool) : List Char × Cursor :=
  let taken := c.rest.takeWhile p
  (taken, c.skip taken.length)

/-- The place after the characters of a kind. -/
def skipWhile (c : Cursor) (p : Char → Bool) : Cursor := (c.takeWhile p).2

/-- The place after spaces. -/
def skipSpaces (c : Cursor) : Cursor := c.skipWhile (· == ' ')

/-- The place after a comment, if there is one. -/
def skipComment (c : Cursor) : Cursor :=
  if c.peek = some '#' then c.skipWhile (!isBreak ·) else c

/-- The end of the line, if it is here. -/
def lineBreak? (c : Cursor) : Option (Char × Cursor) :=
  match c.peek with
  | some x => if isBreak x then some (breakText x, c.next) else none
  | none => none

/-- The place after the end of the line, if it is here. -/
def skipBreak (c : Cursor) : Cursor := ((c.lineBreak?).map (·.2)).getD c

/-- Do three characters stand here, and nothing else of a word? -/
def marks (c : Cursor) (mark : String) : Bool :=
  mark.toList.isPrefixOf c.rest && endsWord (c.peekAt 3)

/-- Does a document start or end here? -/
def atSeparator (c : Cursor) : Bool := c.marks "---" || c.marks "..."

/-- The rest of the line, in which only a comment may follow. -/
def restOfLine (c : Cursor) : Except Fault Cursor :=
  let c := c.skipSpaces.skipComment
  if endsLine c.peek then .ok c.skipBreak else .error .malformed

/-! ### Names, tags and directives -/

/-- A name, which must not be empty. -/
def name (c : Cursor) : Except Fault (String × Cursor) :=
  let (name, c) := c.takeWhile isNameChar
  if name.isEmpty then .error .malformed else .ok (String.ofList name, c)

/-- The name of an anchor or an alias, after its mark. -/
def anchorName (c : Cursor) : Except Fault (String × Cursor) := do
  let (name, c) ← c.next.name
  if endsWord c.peek ||
      c.peek.any (· ∈ ['?', ':', ',', ']', '\x7d', '%', '@', Char.ofNat 0x60]) then
    return (name, c)
  else throw .malformed

/-- A character of a tag. -/
def isTagChar (c : Char) : Bool :=
  c.isAlphanum || c ∈ "-;/?:@&=+$,_.!~*'()[]%".toList

/-- Octets that are each written as a percent sign and two digits. -/
def escapedOctets : Nat → Cursor → Except Fault (List UInt8 × Cursor)
  | 0, c => .ok ([], c)
  | fuel + 1, c =>
    if c.peek = some '%' then do
      let digits := (c.rest.drop 1).take 2
      if digits.length = 2 && digits.all Text.isHexDigit then
        let value := (Text.natOfDigits? 16 digits).getD 0
        let (octets, c) ← escapedOctets fuel (c.skip 3)
        return (UInt8.ofNat value :: octets, c)
      else throw .malformed
    else .ok ([], c)

/-- The characters of a tag, some of which may be escaped. -/
def tagChars : Nat → Cursor → Except Fault (List Char × Cursor)
  | 0, c => .ok ([], c)
  | fuel + 1, c =>
    match c.peek with
    | some '%' => do
      let (octets, c) ← escapedOctets c.rest.length c
      match Text.Utf8.decode ⟨octets.toArray⟩ with
      | .error _ => throw .malformed
      | .ok text =>
        let (more, c) ← tagChars fuel c
        return (text.toList ++ more, c)
    | some x =>
      if isTagChar x then do
        let (more, c) ← tagChars fuel c.next
        return (x :: more, c)
      else .ok ([], c)
    | none => .ok ([], c)

/-- The text of a tag, which must not be empty. -/
def tagText (c : Cursor) : Except Fault (String × Cursor) := do
  let (text, after) ← tagChars (c.rest.length + 1) c
  if after.index = c.index then throw .malformed else return (String.ofList text, after)

/-- A handle, with the marks around it. -/
def tagHandle (c : Cursor) : Except Fault (String × Cursor) :=
  if c.peek ≠ some '!' then .error .malformed
  else if c.peekAt 1 = some ' ' then .ok ("!", c.next)
  else
    let (name, c) := c.next.takeWhile isNameChar
    if c.peek = some '!' then .ok (String.ofList ('!' :: name ++ ['!']), c.next)
    else .error .malformed

/-- A tag, from its first mark on. -/
def tag (c : Cursor) : Except Fault (Token × Cursor) := do
  let (token, c) ←
    match c.peekAt 1 with
    | some '<' => do
      let (text, c) ← (c.skip 2).tagText
      if c.peek = some '>' then pure (Token.tag none text, c.next) else throw .malformed
    | next =>
      if endsWord next then pure (Token.tag none "!", c.next)
      else do
        let word := (c.rest.drop 1).takeWhile fun x => !(x = ' ' || isBreak x)
        let (handle, c) ← if '!' ∈ word then c.tagHandle else pure ("!", c.next)
        let (text, c) ← c.tagText
        pure (Token.tag (some handle) text, c)
  if endsPart c.peek then return (token, c) else throw .malformed

/-- The number of a version. -/
def versionNumber (c : Cursor) : Except Fault (Nat × Cursor) :=
  let (digits, c) := c.takeWhile Char.isDigit
  match Text.natOfDigits? 10 digits with
  | some n => .ok (n, c)
  | none => .error .malformed

/-- What follows the name of a directive. -/
def directiveBody (name : String) (c : Cursor) : Except Fault (Directive × Cursor) := do
  if name = "YAML" then
    let (major, c) ← c.skipSpaces.versionNumber
    if c.peek ≠ some '.' then throw .malformed
    let (_, c) ← c.next.versionNumber
    if endsPart c.peek then return (.version major, c) else throw .malformed
  else if name = "TAG" then
    let (handle, c) ← c.skipSpaces.tagHandle
    if c.peek ≠ some ' ' then throw .malformed
    let (expansion, c) ← c.skipSpaces.tagText
    if endsPart c.peek then return (.handle handle expansion, c) else throw .malformed
  else return (.other, c.skipWhile (!isBreak ·))

/-- A directive, from its mark on to the end of its line. -/
def directive (c : Cursor) : Except Fault (Token × Cursor) := do
  let (name, c) ← c.next.name
  if !endsPart c.peek then throw .malformed
  let (directive, c) ← directiveBody name c
  return (.directive directive, ← c.restOfLine)

/-! ### Quoted texts -/

/-- What a letter behind a backslash stands for. -/
def escape? : Char → Option Char
  | '0' => some (Char.ofNat 0)
  | 'a' => some (Char.ofNat 7)
  | 'b' => some (Char.ofNat 8)
  | 't' | '\t' => some '\t'
  | 'n' => some '\n'
  | 'v' => some (Char.ofNat 0xb)
  | 'f' => some (Char.ofNat 0xc)
  | 'r' => some '\r'
  | 'e' => some (Char.ofNat 0x1b)
  | ' ' => some ' '
  | '"' => some '"'
  | '\\' => some '\\'
  | '/' => some '/'
  | 'N' => some (Char.ofNat 0x85)
  | '_' => some (Char.ofNat 0xa0)
  | 'L' => some (Char.ofNat 0x2028)
  | 'P' => some (Char.ofNat 0x2029)
  | _ => none

/-- How many digits follow a letter behind a backslash. -/
def escapeWidth? : Char → Option Nat
  | 'x' => some 2
  | 'u' => some 4
  | 'U' => some 8
  | _ => none

/-- The code point of a number. -/
def pointOf (n : Nat) : Except Fault CodePoint :=
  if 0x7fffffff < n then .error .beyondWord
  else
    match CodePoint.ofNat? n with
    | some point => .ok point
    | none => .error .beyondUnicode

/-- The line ends in front of the next text. A separator of documents must not be among them. -/
def quotedBreaks : Nat → Cursor → Except Fault (List Char × Cursor)
  | 0, c => .ok ([], c)
  | fuel + 1, c =>
    if c.atSeparator then .error .malformed
    else
      let c := c.skipWhile fun x => x = ' ' || x = '\t'
      match c.lineBreak? with
      | some (x, c) => do
        let (breaks, c) ← quotedBreaks fuel c
        return (x :: breaks, c)
      | none => .ok ([], c)

/-- What a line end and the ones after it come to: one alone is a space. -/
def folded (first : Char) (breaks : List Char) : List Char :=
  if first ≠ '\n' then first :: breaks else if breaks.isEmpty then [' '] else breaks

/-- An escape, from its backslash on. A line end that is escaped leaves nothing. -/
def escapeSequence (c : Cursor) : Except Fault (List CodePoint × Cursor) := do
  let c := c.next
  match c.peek with
  | none => throw .malformed
  | some x =>
    match escape? x, escapeWidth? x with
    | some meant, _ => return ([.char meant], c.next)
    | none, some width =>
      let digits := (c.rest.drop 1).take width
      if digits.length = width && digits.all Text.isHexDigit then
        let meant ← pointOf ((Text.natOfDigits? 16 digits).getD 0)
        return ([meant], c.skip (width + 1))
      else throw .malformed
    | none, none =>
      if isBreak x then
        let (breaks, c) ← quotedBreaks c.rest.length c.next
        return (breaks.map .char, c)
      else throw .malformed

/-- What follows the first quote, up to the last one. -/
def quotedBody (double : Bool) : Nat → Cursor → Except Fault (List CodePoint × Cursor)
  | 0, _ => .error .malformed
  | fuel + 1, c =>
    let pointsThen (found : List CodePoint) (c : Cursor) :
        Except Fault (List CodePoint × Cursor) := do
      let (more, c) ← quotedBody double fuel c
      return (found ++ more, c)
    let andThen (found : List Char) : Cursor → Except Fault (List CodePoint × Cursor) :=
      pointsThen (found.map .char)
    match c.peek with
    | none => .error .malformed
    | some x =>
      if x = '\'' && !double then
        if c.peekAt 1 = some '\'' then andThen [x] (c.skip 2) else .ok ([], c.next)
      else if x = '"' && double then .ok ([], c.next)
      else if x = '\\' && double then do
        let (found, c) ← c.escapeSequence
        pointsThen found c
      else if x = ' ' || x = '\t' || isBreak x then
        let (blanks, c) := c.takeWhile fun x => x = ' ' || x = '\t'
        match c.lineBreak? with
        | some (first, c) => do
          let (breaks, c) ← quotedBreaks (c.rest.length + 1) c
          andThen (folded first breaks) c
        | none => andThen blanks c
      else
        let special (y : Char) : Bool :=
          y = '\'' || y = '"' || y = '\\' || y = ' ' || y = '\t' || isBreak y
        let (found, c) := c.next.takeWhile (!special ·)
        andThen (x :: found) c

/-- A quoted text, from its first quote on. -/
def quoted (c : Cursor) : Except Fault (Token × Cursor) := do
  let (text, c) ← quotedBody (c.peek = some '"') (c.rest.length + 1) c.next
  return (.scalar ⟨text⟩ false, c)

end Cursor

end ProviderRegistry.Yaml
