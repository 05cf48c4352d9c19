import ProviderRegistry.Text.Base64
import ProviderRegistry.Yaml.Graph
import ProviderRegistry.Yaml.Value

/-!
# The meaning of a document

The value that a document stands for, by the tags of its nodes. A collection is made empty first
and filled when its turn comes, in the order in which the collections were met; so a collection may
be inside itself, and of several faults the one nearest to the root is found.

A mapping may take in the entries of others by merging them; its own entries win, and of those
taken in the ones that come last.
-/

namespace ProviderRegistry.Yaml.Graph

/-- The nodes, the cells made so far, and the collections that are still to be filled. -/
structure Making where
  nodes : Array Node
  cells : Array (Option Cell)
  waiting : List Nat

/-- A step of making a value. -/
abbrev Make (α : Type) := EStateM Fault Making α

/-- The node of a number. -/
def nodeAt (number : Nat) : Make Node := do
  match (← get).nodes[number]? with
  | some node => return node
  | none => throw .malformed

/-- Gives a node a cell. -/
def setCell (number : Nat) (cell : Cell) : Make Unit :=
  modify fun m => { m with cells := m.cells.setIfInBounds number (some cell) }

/-- The cell of a node, if it was made. -/
def cell? (number : Nat) : Make (Option Cell) := return ((← get).cells[number]?).join

/-! ### Scalars -/

/-- The text of a node. In the place of a mapping stands the text of its value key. -/
def textAt : Nat → Nat → Make RawText
  | 0, _ => throw .malformed
  | fuel + 1, number => do
    match (← nodeAt number).content with
    | .text text => return text
    | .sequence _ => throw .malformed
    | .mapping entries =>
      let standing ← entries.filterM fun (key, _) => return (← nodeAt key).tag = valueTag
      match standing with
      | (_, number) :: _ => textAt fuel number
      | [] => throw .malformed

/-- A text without underscores. -/
def withoutUnderscores (text : String) : List Char := text.toList.filter (· ≠ '_')

/-- The switch in a text. -/
def switchIn (text : String) : Except Fault Bool :=
  let word := String.ofList (text.toList.map Char.toLower)
  if word ∈ wordsOn then .ok true else if word ∈ wordsOff then .ok false else .error .noSwitch

/-- The numerals between the colons of a text. -/
def sixtieths {α : Type} (read : String → Except Numeral.Fault α) (cs : List Char) :
    Except Numeral.Fault (List α) :=
  (Text.split ':' cs).mapM fun part => read (String.ofList part)

/-- The whole number in a text without sign. -/
def unsignedIntegerIn (cs : List Char) : Except Numeral.Fault Int :=
  match cs with
  | [] => .error .empty
  | ['0'] => .ok 0
  | '0' :: 'b' :: rest => Numeral.whole 2 (String.ofList rest)
  | '0' :: 'x' :: rest => Numeral.whole 16 (String.ofList rest)
  | '0' :: _ => Numeral.whole 8 (String.ofList cs)
  | cs =>
    if ':' ∈ cs then do
      return (← sixtieths (Numeral.whole 10) cs).foldl (fun n part => 60 * n + part) 0
    else Numeral.whole 10 (String.ofList cs)

/-- A sign at the front of a text that must not be empty, and what follows it. -/
def signIn (cs : List Char) : Except Numeral.Fault (Bool × List Char) :=
  if cs.isEmpty then .error .empty else .ok (Numeral.splitSign cs)

/-- The whole number in a text. -/
def integerIn (text : String) : Except Numeral.Fault Int := do
  let (negative, cs) ← signIn (withoutUnderscores text)
  let n ← unsignedIntegerIn cs
  return if negative then -n else n

/-- The sum of sixtieths, from the last one on, each rounded. -/
def sumOfSixtieths (parts : List Binary64) : Binary64 :=
  let weights := (List.range parts.length).map fun n => Binary64.ofInt (Nat.pow 60 n)
  (parts.reverse.zip weights).foldl
    (fun sum (part, weight) => sum.add (part.mul weight)) (.ofInt 0)

/-- The number with a point in a text without sign. -/
def unsignedDecimalIn (cs : List Char) : Except Numeral.Fault Binary64 :=
  let word := String.ofList cs
  if word = ".inf" then .ok (.infinite false)
  else if word = ".nan" then .ok .undefined
  else if ':' ∈ cs then return sumOfSixtieths (← sixtieths Numeral.decimal cs)
  else Numeral.decimal word

/-- The number with a point in a text. -/
def decimalIn (text : String) : Except Numeral.Fault Binary64 := do
  let (negative, cs) ← signIn ((withoutUnderscores text).map Char.toLower)
  let x ← unsignedDecimalIn cs
  return if negative then x.neg else x

/-- The octets in a text, which must be one of ASCII. -/
def octetsIn (text : String) : Except Fault (List UInt8) :=
  if text.toList.any (128 ≤ ·.toNat) then .error .malformed
  else
    match Text.Base64.decode text.toList with
    | some octets => .ok octets
    | none => .error .malformed

/-- The scalar of a kind that a text stands for. With a surrogate in it, it stands for a text
alone; a replacement serves as well to refuse it. -/
def scalarIn (kind : Kind) (text : RawText) : Except Fault Scalar :=
  match kind with
  | .null => .ok .null
  | .bool => return .bool (← switchIn text.mended)
  | .int => return .int (← (integerIn text.mended).mapError Fault.numeral)
  | .float => return .float (← (decimalIn text.mended).mapError Fault.numeral)
  | .binary => return .octets (← octetsIn text.mended)
  | .timestamp => return .timestamp (← Timestamp.ofText text.mended)
  | _ => .ok (.text text)

/-- The scalar of a node of a kind. -/
def scalarAt (kind : Kind) (number : Nat) : Make Scalar := do
  let text ← textAt ((← get).nodes.size + 1) number
  match kind, (← nodeAt number).content with
  | .timestamp, .mapping _ => throw .timeOfCollection
  | kind, _ => ofExcept (scalarIn kind text)

/-! ### Collections -/

/-- The empty collection of a kind. -/
def emptyCell? : Kind → Option Cell
  | .sequence => some (.list [])
  | .mapping => some (.mapping [])
  | .set => some (.set [])
  | .orderedMap | .pairs => some (.pairs [])
  | _ => none

/-- The kind of a node, which must be known. -/
def kindAt (number : Nat) : Make Kind := do
  match Kind.ofTag? (← nodeAt number).tag with
  | some kind => return kind
  | none => throw .malformed

/-- Makes the cell of a node, unless it is there. -/
def make (number : Nat) : Make Unit := do
  if (← cell? number).isSome then return
  let kind ← kindAt number
  match emptyCell? kind with
  | none => setCell number (.scalar (← scalarAt kind number))
  | some cell =>
    setCell number cell
    modify fun m => { m with waiting := m.waiting ++ [number] }

/-- The entries of a mapping. -/
def entriesAt (number : Nat) : Make (List (Nat × Nat)) := do
  match (← nodeAt number).content with
  | .mapping entries => return entries
  | _ => throw .malformed

/-- Changes a node. -/
def changeNode (number : Nat) (change : Node → Node) : Make Unit :=
  modify fun m => { m with nodes := m.nodes.modify number change }

/-- Gives a mapping other entries. -/
def setEntries (number : Nat) (entries : List (Nat × Nat)) : Make Unit :=
  changeNode number fun node => { node with content := .mapping entries }

/-- Puts the entries of merged mappings in front of the entries of a mapping. The mappings are
merged themselves first. A value key becomes a text. -/
def merge : Nat → Nat → Make Unit
  | 0, _ => throw .malformed
  | fuel + 1, number => do
    let entries ← entriesAt number
    let merging ← entries.filterM fun (key, _) => return (← nodeAt key).tag = mergeTag
    let own ← entries.filterM fun (key, _) => return (← nodeAt key).tag ≠ mergeTag
    own.forM fun (key, _) => changeNode key fun node =>
      if node.tag = valueTag then { node with tag := textTag } else node
    setEntries number own
    let merged ← merging.mapM fun (_, source) => do
      let sources ← match (← nodeAt source).content with
        | .mapping _ => pure [source]
        | .sequence items => pure items
        | .text _ => throw .malformed
      let found ← sources.mapM fun source => do
        merge fuel source
        entriesAt source
      return found.reverse.flatten
    setEntries number (merged.flatten ++ own)

/-- A key with its value: where an equal key is there, it gets the value. -/
def insertEntry (entries : List (Scalar × Nat)) (key : Scalar) (number : Nat) :
    List (Scalar × Nat) :=
  if entries.any (·.1.equals key) then
    entries.map fun entry => if entry.1.equals key then (entry.1, number) else entry
  else entries ++ [(key, number)]

/-- The entries of a mapping. Its keys must be scalars. -/
def mappingAt (number : Nat) : Make (List (Scalar × Nat)) := do
  merge ((← get).nodes.size + 1) number
  (← entriesAt number).foldlM (fun entries (key, value) => do
    make key
    match ← cell? key with
    | some (.scalar key) =>
      make value
      return insertEntry entries key value
    | _ => throw .malformed) []

/-- The items of a sequence. -/
def itemsAt (number : Nat) : Make (List Nat) := do
  match (← nodeAt number).content with
  | .sequence items => return items
  | _ => throw .malformed

/-- The entry of a mapping that has one alone. -/
def pairAt (number : Nat) : Make (Nat × Nat) := do
  match ← entriesAt number with
  | [(key, value)] =>
    make key
    make value
    return (key, value)
  | _ => throw .malformed

/-- Fills a collection. -/
def fill (number : Nat) : Make Unit := do
  match ← kindAt number with
  | .sequence =>
    let items ← itemsAt number
    items.forM make
    setCell number (.list items)
  | .mapping => setCell number (.mapping (← mappingAt number))
  | .set => setCell number (.set ((← mappingAt number).map (·.1)))
  | _ => setCell number (.pairs (← (← itemsAt number).mapM pairAt))

/-- Fills the collections that are waiting. Each waits once. -/
def fillAll : Nat → Make Unit
  | 0 => pure ()
  | fuel + 1 => do
    match (← get).waiting with
    | [] => pure ()
    | number :: waiting =>
      modify fun m => { m with waiting }
      fill number
      fillAll fuel

/-- The value of a document. Without a document there is none. -/
def value (graph : Graph) : Except Fault Value :=
  match graph.root with
  | none => .ok .null
  | some root =>
    let making : Make Unit := do
      make root
      fillAll graph.nodes.size
    match making ⟨graph.nodes, Array.replicate graph.nodes.size none, []⟩ with
    | .ok () m => .ok ⟨m.cells.map (·.getD (.scalar .null)), root⟩
    | .error fault _ => .error fault

end ProviderRegistry.Yaml.Graph

namespace ProviderRegistry.Yaml

/-- The value of a text with one document at most. -/
def valueOf (text : String) : Except Fault Value := do (← Graph.ofText text).value

end ProviderRegistry.Yaml
