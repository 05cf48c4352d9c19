/-!
# Console markup

A text for the console may hold **tags** in brackets that set the style of what follows, and tags
that end a style. Tags are not shown. A backslash in front of a bracket keeps it from being a tag;
`escape` puts one in front of every tag of a text, so that the text is shown as it is.
-/

namespace ProviderRegistry.CommandLine.Markup

/-- A tag that ends a style which was not started. -/
inductive Fault where
  | unmatched (tag : String) (position : Nat)
  | nothingToClose (position : Nat)
  deriving DecidableEq, Repr

/-- The fault in words. -/
def Fault.message : Fault → String
  | .unmatched tag position =>
    s!"closing tag '[{tag}]' at position {position} doesn't match any open tag"
  | .nothingToClose position => s!"closing tag '[/]' at position {position} has nothing to close"

/-- A character that the text of a tag may start with. -/
def startsTag (c : Char) : Bool := ('a' ≤ c && c ≤ 'z') || c = '#' || c = '/' || c = '@'

/-- The text of a tag in brackets, and what follows it. Certain characters may not stand in it. -/
def tag? (forbidden : Char) : List Char → Option (List Char × List Char)
  | '[' :: c :: rest =>
    if startsTag c then
      let text := rest.takeWhile fun x => x ≠ ']' && x ≠ forbidden
      match rest.drop text.length with
      | ']' :: after => some (c :: text, after)
      | _ => none
    else none
  | _ => none

/-- Puts backslashes in front of tags; backslashes that stand there already are doubled. -/
def escapeTags : Nat → List Char → List Char
  | 0, cs => cs
  | _ + 1, [] => []
  | fuel + 1, c :: rest =>
    let slashes := (c :: rest).takeWhile (· == '\\')
    match tag? '\n' ((c :: rest).drop slashes.length) with
    | some (text, after) =>
      slashes ++ slashes ++ '\\' :: '[' :: text ++ ']' :: escapeTags fuel after
    | none => c :: escapeTags fuel rest

/-- A text with a single backslash at its end gets another. -/
def closeSlash (cs : List Char) : List Char :=
  match cs.reverse with
  | '\\' :: '\\' :: _ => cs
  | '\\' :: _ => cs ++ ['\\']
  | _ => cs

/-- A text that is shown as it is. -/
def escape (text : String) : String :=
  let cs := text.toList
  String.ofList (closeSlash (escapeTags (cs.length + 1) cs))

/-- A piece of a text: characters, or a tag at its position. -/
inductive Piece where
  | text (cs : List Char)
  | tag (text : List Char) (position : Nat)
  deriving DecidableEq, Repr

/-- The pieces of a text. Of the backslashes in front of a tag every two stand for one, and a
single one makes the tag a text. -/
def pieces : Nat → Nat → List Char → List Char → List Piece
  | 0, _, found, cs => [.text (found.reverse ++ cs)]
  | _ + 1, _, found, [] => [.text found.reverse]
  | fuel + 1, position, found, c :: rest =>
    let cs := c :: rest
    let slashes := (cs.takeWhile (· == '\\')).length
    match tag? '[' (cs.drop slashes) with
    | some (text, after) =>
      let half := slashes / 2
      let next := position + slashes + text.length + 2
      let piece :=
        if slashes % 2 = 1 then Piece.text ('[' :: text ++ [']'])
        else .tag text (position + 2 * half)
      .text found.reverse :: .text (List.replicate half '\\') :: piece ::
        pieces fuel next [] after
    | none => pieces fuel (position + 1) (c :: found) rest

/-- Characters as they are shown: a backslash in front of a bracket is not. -/
def shownText : List Char → List Char
  | '\\' :: '[' :: rest => '[' :: shownText rest
  | c :: rest => c :: shownText rest
  | [] => []

/-- The style that the text of a tag names. -/
def styleOf (text : List Char) : String :=
  let name := (text.takeWhile (· != '=')).dropWhile (· == ' ')
  String.ofList ((name.reverse.dropWhile (· == ' ')).reverse.map Char.toLower)

/-- What is shown of pieces, inside the styles that were started and not ended, the last one
first. -/
def shown : List String → List Piece → Except Fault (List Char)
  | _, [] => .ok []
  | styles, .text cs :: rest => return shownText cs ++ (← shown styles rest)
  | styles, .tag ('/' :: text) position :: rest =>
    let style := styleOf text
    if style.isEmpty then
      match styles with
      | [] => .error (.nothingToClose position)
      | _ :: styles => shown styles rest
    else if style ∈ styles then shown (styles.erase style) rest
    else .error (.unmatched (String.ofList ('/' :: text)) position)
  | styles, .tag text _ :: rest => shown (styleOf text :: styles) rest

/-- A text without its tags. -/
def plain (text : String) : Except Fault String := do
  let cs := text.toList
  return String.ofList (← shown [] (pieces (cs.length + 1) 0 [] cs))

example : (plain "[bold]a[/] b[1] \\[x]").toOption = some "a b[1] [x]" := by decide +kernel
example : (plain (escape "[bold]a[/] \\[x]")).toOption = some "[bold]a[/] \\[x]" := by
  decide +kernel

end ProviderRegistry.CommandLine.Markup
