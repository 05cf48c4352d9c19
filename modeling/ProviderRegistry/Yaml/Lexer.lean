import ProviderRegistry.Yaml.Cursor

/-!
# The layout of a YAML text

The tokens of a text, with the columns of its lines turned into starts and ends of block
collections.

Whether a token is a key becomes known only when a colon follows in the same line. So every token
that may be one leaves a **slot** in front of itself; the colon fills the slot with a mark, and
slots that are still empty in the end disappear. Outside of brackets a token that starts a line at
the column of the block around it must turn out to be a key.
-/

namespace ProviderRegistry.Yaml

/-- A token that may turn out to be a key: its slot, and where it starts. -/
structure KeyCandidate where
  slot : Nat
  required : Bool
  start : Cursor

/-- The state in the middle of a text. There is one candidate at most for each pair of brackets
around, and one outside of them; the innermost stands first. A column of -1 is that of no block. -/
structure Lexer where
  cursor : Cursor
  blocks : List Int
  keyAllowed : Bool
  candidates : List (Option KeyCandidate)
  slots : Array (List Token)

namespace Lexer

/-- The farthest that a colon may stand from the start of its key. -/
def maxKeyLength : Nat := 1024

/-- One is inside brackets. -/
def inFlow (l : Lexer) : Bool := 1 < l.candidates.length

/-- The column of the innermost block. -/
def block (l : Lexer) : Int := l.blocks.headD (-1)

/-- The state with one more token. -/
def emit (l : Lexer) (token : Token) : Lexer := { l with slots := l.slots.push [token] }

/-- The state at another place. -/
def goTo (l : Lexer) (cursor : Cursor) : Lexer := { l with cursor }

/-- The candidate is too far behind to be a key. -/
def isStale (l : Lexer) (candidate : KeyCandidate) : Bool :=
  candidate.start.line ≠ l.cursor.line ||
    maxKeyLength < l.cursor.index - candidate.start.index

/-- Gives up candidates that are too far behind. -/
def dropStale (l : Lexer) : Except Fault Lexer :=
  if l.candidates.any (·.any fun k => l.isStale k && k.required) then .error .malformed
  else .ok { l with candidates := l.candidates.map (·.filter (!l.isStale ·)) }

/-- Gives up the innermost candidate. -/
def dropCandidate (l : Lexer) : Except Fault Lexer :=
  match l.candidates with
  | some candidate :: rest =>
    if candidate.required then .error .malformed else .ok { l with candidates := none :: rest }
  | _ => .ok l

/-- Makes what follows a candidate, where a key is allowed. -/
def markCandidate (l : Lexer) : Except Fault Lexer :=
  if l.keyAllowed then do
    let required := !l.inFlow && l.block = l.cursor.column
    let l ← l.dropCandidate
    let candidate : KeyCandidate := ⟨l.slots.size, required, l.cursor⟩
    return { l with
      candidates := some candidate :: l.candidates.tail, slots := l.slots.push [] }
  else .ok l

/-- Closes the blocks that stand to the right of a column. -/
def closeBlocks (l : Lexer) (column : Int) : Lexer :=
  if l.inFlow then l
  else
    let open_ := l.blocks.dropWhile (column < ·)
    let closed := l.blocks.length - open_.length
    closed.repeat (·.emit .blockEnd) { l with blocks := open_ }

/-- Opens a block at a column, unless there is one already. -/
def openBlock (l : Lexer) (column : Int) (start : Token) : Lexer :=
  if l.block < column then { l with blocks := column :: l.blocks }.emit start else l

/-! ### Between tokens -/

/-- Goes to the next token. Outside of brackets a key may start a line. -/
def toNextToken : Nat → Lexer → Lexer
  | 0, l => l
  | fuel + 1, l =>
    let c := l.cursor.skipSpaces.skipComment
    match c.lineBreak? with
    | some (_, c) =>
      toNextToken fuel { l with cursor := c, keyAllowed := l.keyAllowed || !l.inFlow }
    | none => l.goTo c

/-! ### Texts without quotes -/

/-- Does a plain text end here? -/
def endsPlain (inFlow : Bool) (c : Cursor) : Bool :=
  endsWord c.peek ||
    (c.peek = some ':' &&
      (endsWord (c.peekAt 1) ||
        (inFlow && (c.peekAt 1).any (· ∈ [',', '[', ']', '\x7b', '\x7d'])))) ||
    (inFlow && c.peek.any (· ∈ [',', '?', '[', ']', '\x7b', '\x7d']))

/-- The characters of a plain text up to the next space. -/
def plainWord (inFlow : Bool) : Nat → Cursor → List Char × Cursor
  | 0, c => ([], c)
  | fuel + 1, c =>
    match c.peek with
    | none => ([], c)
    | some x =>
      if endsPlain inFlow c then ([], c)
      else
        let (more, c) := plainWord inFlow fuel c.next
        (x :: more, c)

/-- The line ends between two lines of a plain text. A separator of documents ends it. -/
def plainBreaks : Nat → Cursor → Option (List Char) × Cursor
  | 0, c => (some [], c)
  | fuel + 1, c =>
    match c.peek with
    | some ' ' => plainBreaks fuel c.next
    | _ =>
      match c.lineBreak? with
      | none => (some [], c)
      | some (x, c) =>
        if c.atSeparator then (none, c)
        else
          let (breaks, c) := plainBreaks fuel c
          (breaks.map (x :: ·), c)

/-- What stands between two words of a plain text, if the text goes on, the place after it, and
whether that is in another line. -/
def plainGap (c : Cursor) : Option (List Char) × Cursor × Bool :=
  let (blanks, c) := c.takeWhile (· == ' ')
  match c.lineBreak? with
  | none => (if blanks.isEmpty then none else some blanks, c, false)
  | some (first, c) =>
    if c.atSeparator then (none, c, true)
    else
      let (breaks, c) := plainBreaks (c.rest.length + 1) c
      (breaks.map (Cursor.folded first), c, true)

/-- A plain text, the place after it, and whether a key may follow. -/
def plainText (inFlow : Bool) (block : Int) :
    Nat → List Char → Bool → Cursor → List Char × Bool × Cursor
  | 0, _, keyAllowed, c => ([], keyAllowed, c)
  | fuel + 1, gap, keyAllowed, c =>
    let (word, after) := plainWord inFlow c.rest.length c
    if c.peek = some '#' || word.isEmpty then ([], keyAllowed, c)
    else
      let (next, c, newLine) := plainGap after
      match next with
      | none => (gap ++ word, newLine, c)
      | some next =>
        if c.peek = some '#' || (!inFlow && (c.column : Int) ≤ block) then
          (gap ++ word, newLine, c)
        else
          let (more, keyAllowed, c) := plainText inFlow block fuel next newLine c
          (gap ++ word ++ more, keyAllowed, c)

/-- What becomes of the line ends behind a block text. -/
inductive Chomping where
  | clip
  | strip
  | keep
  deriving DecidableEq, Repr

/-- The chomping that a sign asks for. -/
def chomping? : Option Char → Option Chomping
  | some '+' => some .keep
  | some '-' => some .strip
  | _ => none

/-- The digit that gives an indentation; it must not be zero. -/
def indentDigit (c : Cursor) : Except Fault (Option Nat × Cursor) :=
  match c.peek with
  | some x =>
    if x = '0' then .error .malformed
    else if x.isDigit then .ok (some (x.toNat - '0'.toNat), c.next)
    else .ok (none, c)
  | none => .ok (none, c)

/-- What follows the mark of a block text in its line, in either order. -/
def blockHeader (c : Cursor) : Except Fault (Chomping × Option Nat × Cursor) := do
  match chomping? c.peek with
  | some chomping =>
    let (width, c) ← indentDigit c.next
    finish chomping width c
  | none =>
    let (width, c) ← indentDigit c
    match width, chomping? c.peek with
    | some _, some chomping => finish chomping width c.next
    | _, _ => finish .clip width c
where
  /-- Nothing else may stand in the line. -/
  finish (chomping : Chomping) (width : Option Nat) (c : Cursor) :
      Except Fault (Chomping × Option Nat × Cursor) := do
    if endsPart c.peek then return (chomping, width, ← c.restOfLine) else throw .malformed

/-- The empty lines in front of a block text, and the greatest column in them. -/
def blockStart : Nat → Nat → Cursor → List Char × Nat × Cursor
  | 0, widest, c => ([], widest, c)
  | fuel + 1, widest, c =>
    if c.peek = some ' ' then blockStart fuel (max widest c.next.column) c.next
    else
      match c.lineBreak? with
      | none => ([], widest, c)
      | some (x, c) =>
        let (breaks, widest, c) := blockStart fuel widest c
        (x :: breaks, widest, c)

/-- Goes right through spaces, no further than a column. -/
def indentTo (column : Nat) (c : Cursor) : Cursor :=
  c.skip ((c.rest.takeWhile (· == ' ')).length.min (column - c.column))

/-- The empty lines in front of the next line of a block text. -/
def blockBreaks (column : Nat) : Nat → Cursor → List Char × Cursor
  | 0, c => ([], c)
  | fuel + 1, c =>
    let c := indentTo column c
    match c.lineBreak? with
    | none => ([], c)
    | some (x, c) =>
      let (breaks, c) := blockBreaks column fuel c
      (x :: breaks, c)

/-- A line of a block text continues the one before if neither is indented further. -/
def isFlush (c : Cursor) : Bool := !c.peek.any fun x => x = ' ' || x = '\t'

/-- The lines of a block text, from its first line on: the text, its last line end, the empty lines
behind it, and the place after it. -/
def blockLines (isFolded : Bool) (column : Nat) :
    Nat → List Char → Cursor → List Char × List Char × List Char × Cursor
  | 0, breaks, c => ([], [], breaks, c)
  | fuel + 1, breaks, c =>
    let flush := isFlush c
    let (line, c) := c.takeWhile (!isBreak ·)
    let (lineEnd, c) := match c.lineBreak? with
      | some (x, c) => ([x], c)
      | none => ([], c)
    let (next, c) := blockBreaks column (c.rest.length + 1) c
    if c.column = column && c.peek.isSome then
      let joint :=
        if isFolded && lineEnd = ['\n'] && flush && isFlush c then
          (if next.isEmpty then [' '] else [])
        else lineEnd
      let (more, lineEnd, rest, c) := blockLines isFolded column fuel next c
      (breaks ++ line ++ joint ++ more, lineEnd, rest, c)
    else (breaks ++ line, lineEnd, next, c)

/-- A block text in a block at some column, after its mark. -/
def blockText (isFolded : Bool) (block : Int) (c : Cursor) : Except Fault (Token × Cursor) := do
  let (chomping, width, c) ← blockHeader c.next
  let least := (block + 1).toNat.max 1
  let fuel := c.rest.length + 1
  let (column, breaks, c) := match width with
    | some width =>
      let column := least + width - 1
      let (breaks, c) := blockBreaks column fuel c
      (column, breaks, c)
    | none =>
      let (breaks, widest, c) := blockStart fuel 0 c
      (least.max widest, breaks, c)
  let (text, lineEnd, rest, c) :=
    if c.column = column && c.peek.isSome then blockLines isFolded column fuel breaks c
    else ([], [], breaks, c)
  let tail := match chomping with
    | .strip => []
    | .clip => lineEnd
    | .keep => lineEnd ++ rest
  return (.scalar (String.ofList (text ++ tail)) false, c)

/-! ### Tokens -/

/-- A separator of documents, which closes all blocks. -/
def separator (l : Lexer) (token : Token) : Except Fault Lexer := do
  let l ← (l.closeBlocks (-1)).dropCandidate
  return { l.emit token with keyAllowed := false, cursor := l.cursor.skip 3 }

/-- A directive, which closes all blocks. -/
def directive (l : Lexer) : Except Fault Lexer := do
  let l ← (l.closeBlocks (-1)).dropCandidate
  let (token, cursor) ← l.cursor.directive
  return { l.emit token with keyAllowed := false, cursor }

/-- An opening bracket. -/
def openBracket (l : Lexer) (token : Token) : Except Fault Lexer := do
  let l ← l.markCandidate
  return { l.emit token with
    candidates := none :: l.candidates, keyAllowed := true, cursor := l.cursor.next }

/-- A closing bracket. One must be open. -/
def closeBracket (l : Lexer) (token : Token) : Except Fault Lexer := do
  if !l.inFlow then throw .malformed
  let l ← l.dropCandidate
  return { l.emit token with
    candidates := l.candidates.tail, keyAllowed := false, cursor := l.cursor.next }

/-- A comma, behind which a key may stand. -/
def comma (l : Lexer) : Except Fault Lexer := do
  let l ← { l with keyAllowed := true }.dropCandidate
  return l.emit .comma |>.goTo l.cursor.next

/-- A mark that starts a part of a collection: outside of brackets it stands where a key may stand,
and opens a block. -/
def partMark (l : Lexer) (start token : Token) (keyAllowed : Bool) : Except Fault Lexer := do
  let l ←
    if l.inFlow then pure l
    else if l.keyAllowed then pure (l.openBlock l.cursor.column start)
    else throw .malformed
  let l ← { l with keyAllowed }.dropCandidate
  return l.emit token |>.goTo l.cursor.next

/-- The colon of a value. If there is a candidate, it turns out to be the key. -/
def colon (l : Lexer) : Except Fault Lexer :=
  match l.candidates with
  | some candidate :: rest =>
    let column : Int := candidate.start.column
    let opens := !l.inFlow && l.block < column
    let mark : List Token := if opens then [.blockMapping, .key] else [.key]
    .ok <| { l with
      blocks := if opens then column :: l.blocks else l.blocks
      candidates := none :: rest
      keyAllowed := false
      slots := l.slots.setIfInBounds candidate.slot mark }.emit .value |>.goTo l.cursor.next
  | _ => l.partMark .blockMapping .value (!l.inFlow)

/-- A token that may be a key. -/
def keyLike (l : Lexer) (read : Cursor → Except Fault (Token × Cursor)) : Except Fault Lexer := do
  let l ← l.markCandidate
  let (token, cursor) ← read l.cursor
  return { l.emit token with keyAllowed := false, cursor }

/-- A name behind a mark, as a token. -/
def named (make : String → Token) (c : Cursor) : Except Fault (Token × Cursor) := do
  let (name, c) ← c.anchorName
  return (make name, c)

/-- A block text, behind which a key may stand. -/
def blockScalar (l : Lexer) (isFolded : Bool) : Except Fault Lexer := do
  let l ← { l with keyAllowed := true }.dropCandidate
  let (token, cursor) ← blockText isFolded l.block l.cursor
  return l.emit token |>.goTo cursor

/-- A text without quotes. -/
def plain (l : Lexer) : Except Fault Lexer := do
  let l ← l.markCandidate
  let (text, keyAllowed, cursor) :=
    plainText l.inFlow l.block (l.cursor.rest.length + 1) [] false l.cursor
  return { l.emit (.scalar (String.ofList text) true) with keyAllowed, cursor }

/-- Marks that start no plain text. -/
def isIndicator (c : Char) : Bool :=
  c ∈ ['-', '?', ':', ',', '[', ']', '\x7b', '\x7d', '#', '&', '*', '!', '|', '>', '\'', '"', '%',
    '@', Char.ofNat 0x60]

/-- Does a plain text start here? A dash, a question mark or a colon may start one if a word goes
on behind it. -/
def startsPlain (l : Lexer) : Bool :=
  match l.cursor.peek with
  | none => false
  | some x =>
    (!isIndicator x && !endsWord (some x)) ||
      (!endsWord (l.cursor.peekAt 1) && (x = '-' || (!l.inFlow && (x = '?' || x = ':'))))

/-- Goes to the next token, and closes the blocks that do not reach it. -/
def approach (l : Lexer) : Except Fault Lexer := do
  let l ← (l.toNextToken (l.cursor.rest.length + 1)).dropStale
  return l.closeBlocks l.cursor.column

/-- Reads the token that starts with a character. -/
def token (l : Lexer) (x : Char) : Except Fault Lexer :=
  let c := l.cursor
  let wordEnds := l.inFlow || endsWord (c.peekAt 1)
  if x = '%' ∧ c.column = 0 then l.directive
  else if c.column = 0 ∧ c.marks "---" then l.separator .documentStart
  else if c.column = 0 ∧ c.marks "..." then l.separator .documentEnd
  else if x = '[' then l.openBracket .openSequence
  else if x = '\x7b' then l.openBracket .openMapping
  else if x = ']' then l.closeBracket .closeSequence
  else if x = '\x7d' then l.closeBracket .closeMapping
  else if x = ',' then l.comma
  else if x = '-' ∧ endsWord (c.peekAt 1) then l.partMark .blockSequence .item true
  else if x = '?' ∧ wordEnds then l.partMark .blockMapping .key (!l.inFlow)
  else if x = ':' ∧ wordEnds then l.colon
  else if x = '*' then l.keyLike (named .reference)
  else if x = '&' then l.keyLike (named .anchor)
  else if x = '!' then l.keyLike Cursor.tag
  else if x = '|' ∧ !l.inFlow then l.blockScalar false
  else if x = '>' ∧ !l.inFlow then l.blockScalar true
  else if x = '\'' ∨ x = '"' then l.keyLike Cursor.quoted
  else if l.startsPlain then l.plain
  else .error .malformed

/-- The tokens so far, without the empty slots, and why there are no more. -/
def stop (l : Lexer) (last : Token) : List Token := l.slots.toList.flatten ++ [last]

/-- Reads on until there are no more tokens. Each turn takes a character. -/
def run : Nat → Lexer → List Token
  | 0, l => l.stop (.broken .malformed)
  | fuel + 1, l =>
    match l.approach with
    | .error fault => l.stop (.broken fault)
    | .ok near =>
      match near.cursor.peek with
      | none =>
        match (near.closeBlocks (-1)).dropCandidate with
        | .error fault => l.stop (.broken fault)
        | .ok done => done.stop .endOfText
      | some x =>
        match near.token x with
        | .error fault => l.stop (.broken fault)
        | .ok next => run fuel next

end Lexer

/-- The tokens of a text. A byte order mark may stand in front. -/
def tokensOf (text : List Char) : List Token :=
  if text.all isAllowed then
    let text := if text.head? = some (Char.ofNat 0xfeff) then text.drop 1 else text
    Lexer.run (text.length + 1) ⟨⟨text, 0, 0, 0⟩, [], true, [none], #[]⟩
  else [.broken .malformed]

end ProviderRegistry.Yaml
