import ProviderRegistry.Yaml.Lexer
import ProviderRegistry.Yaml.Schema

/-!
# Documents of YAML

A document is a graph: an alias leads to the node that its anchor names, so that a node may stand
in many places, even inside itself. Nodes are known by their numbers.

`Graph.ofText` reads a text with one document at most. The fuel of its loops is measured in tokens:
on the way from a node to one inside of it a token is taken at least at every other step.
-/

namespace ProviderRegistry.Yaml

/-- What a node holds: a text, or the numbers of other nodes. -/
inductive Content where
  | text (text : RawText)
  | sequence (items : List Nat)
  | mapping (entries : List (Nat × Nat))
  deriving DecidableEq, Repr

/-- A node: what it holds, and what that is meant to be. -/
structure Node where
  tag : String
  content : Content
  deriving DecidableEq, Repr

/-- A document: its nodes, and the one that all others are reached from. There is none in a text
without a document. -/
structure Graph where
  nodes : Array Node
  root : Option Nat
  deriving Repr

namespace Graph

/-- What is left to read, and what was read so far. -/
structure Reading where
  rest : List Token
  nodes : Array Node := #[]
  anchors : List (String × Nat) := []
  handles : List (String × String) := []

/-- A step of reading. -/
abbrev Read (α : Type) := EStateM Fault Reading α

/-- The next token. -/
def peek : Read Token := return (← get).rest.headD .endOfText

/-- Takes the next token. -/
def advance : Read Unit := modify fun r => { r with rest := r.rest.drop 1 }

/-- The next token does not belong here. -/
def refuse {α : Type} : Read α := do
  match ← peek with
  | .broken fault => throw fault
  | _ => throw .malformed

/-- Takes a token that must be the next one. -/
def expect (token : Token) : Read Unit := do
  if (← peek) = token then advance else refuse

/-- The next token is one of some. -/
def isNext (tokens : List Token) : Read Bool := return (← peek) ∈ tokens

/-- A new node. -/
def addNode (tag : String) (content : Content) : Read Nat := do
  let r ← get
  set { r with nodes := r.nodes.push ⟨tag, content⟩ }
  return r.nodes.size

/-- Gives a node its content. -/
def setContent (number : Nat) (content : Content) : Read Unit :=
  modify fun r => { r with nodes := r.nodes.modify number ({ · with content }) }

/-- A node for what is left out. -/
def nothing : Read Nat := addNode (tagOfPlain "") (.text "")

/-- Names a node. -/
def nameNode (anchor : Option String) (number : Nat) : Read Unit :=
  match anchor with
  | none => pure ()
  | some name => modify fun r => { r with anchors := (name, number) :: r.anchors }

/-- The tag that a handle and what follows it stand for. -/
def expandTag (handle : Option String) (suffix : String) : Read String := do
  match handle with
  | none => return suffix
  | some handle =>
    match (← get).handles.lookup handle with
    | some expansion => return expansion ++ suffix
    | none => throw .malformed

/-- An anchor, if it is next. -/
def anchor? : Read (Option String) := do
  match ← peek with
  | .anchor name => advance; return some name
  | _ => return none

/-- A tag, if it is next. -/
def tag? : Read (Option String) := do
  match ← peek with
  | .tag handle suffix => advance; return some (← expandTag handle suffix)
  | _ => return none

/-- The anchor and the tag of a node, in either order. A name must be new. -/
def properties : Read (Option String × Option String) := do
  let anchor ← anchor?
  let tag ← tag?
  let anchor ← if anchor.isSome then pure anchor else anchor?
  return (anchor, tag)

/-- The tag that leaves the kind of a node open. -/
def openTag : String := "!"

/-- A tag, or another one where the kind is left open. -/
def tagOr (tag : Option String) (other : String) : String :=
  match tag with
  | none => other
  | some tag => if tag = openTag then other else tag

/-- The tag of a text. Only a plain one may be something else without a tag. -/
def tagOfText (tag : Option String) (text : RawText) (plain : Bool) : String :=
  match tag with
  | none => if plain then tagOfPlain text.mended else textTag
  | some _ => tagOr tag (tagOfPlain text.mended)

/-- A name that was not given before. -/
def checkAnchor (anchor : Option String) : Read Unit := do
  let known := (← get).anchors
  if anchor.any fun name => (known.lookup name).isSome then throw .malformed

mutual

/-- A node. Block collections are allowed in some places only, and dashes without indentation only
as values of a block mapping. -/
def node : Nat → Bool → Bool → Read Nat
  | 0, _, _ => refuse
  | fuel + 1, block, dashes => do
    match ← peek with
    | .reference name =>
      advance
      match (← get).anchors.lookup name with
      | some number => return number
      | none => throw .malformed
    | _ =>
      let (anchor, tag) ← properties
      let collection (start : Read Unit) (tag : String) (empty : Content)
          (content : Read Content) : Read Nat := do
        checkAnchor anchor
        let number ← addNode tag empty
        nameNode anchor number
        start
        setContent number (← content)
        return number
      let sequence (start : Read Unit) (items : Read (List Nat)) : Read Nat :=
        collection start (tagOr tag sequenceTag) (.sequence []) (return .sequence (← items))
      let mapping (entries : Read (List (Nat × Nat))) : Read Nat :=
        collection advance (tagOr tag mappingTag) (.mapping []) (return .mapping (← entries))
      match ← peek with
      | .item =>
        if dashes then sequence (pure ()) (dashItems fuel) else absent anchor tag
      | .scalar text plain =>
        checkAnchor anchor
        advance
        let number ← addNode (tagOfText tag text plain) (.text text)
        nameNode anchor number
        return number
      | .openSequence => sequence advance (flowItems fuel true)
      | .openMapping => mapping (flowEntries fuel true)
      | .blockSequence =>
        if block then sequence advance (blockItems fuel) else absent anchor tag
      | .blockMapping => if block then mapping (blockEntries fuel) else absent anchor tag
      | _ => absent anchor tag

/-- A node that consists of an anchor or a tag alone. -/
def absent (anchor tag : Option String) : Read Nat := do
  if anchor.isNone && tag.isNone then refuse
  checkAnchor anchor
  let number ← addNode (tagOr tag (tagOfPlain "")) (.text "")
  nameNode anchor number
  return number

/-- A node, or nothing if one of some tokens is next. -/
def nodeUnless : Nat → List Token → Bool → Bool → Read Nat
  | 0, _, _, _ => refuse
  | fuel + 1, ends, block, dashes => do
    if ← isNext ends then nothing else node fuel block dashes

/-- The items of a block sequence. -/
def blockItems : Nat → Read (List Nat)
  | 0 => refuse
  | fuel + 1 => do
    if ← isNext [.item] then
      advance
      let first ← nodeUnless fuel [.item, .blockEnd] true false
      return first :: (← blockItems fuel)
    else
      expect .blockEnd
      return []

/-- The items of a sequence that has no indentation of its own. -/
def dashItems : Nat → Read (List Nat)
  | 0 => refuse
  | fuel + 1 => do
    if ← isNext [.item] then
      advance
      let first ← nodeUnless fuel [.item, .key, .value, .blockEnd] true false
      return first :: (← dashItems fuel)
    else return []

/-- The entries of a block mapping. -/
def blockEntries : Nat → Read (List (Nat × Nat))
  | 0 => refuse
  | fuel + 1 => do
    if ← isNext [.key] then
      advance
      let ends := [Token.key, .value, .blockEnd]
      let key ← nodeUnless fuel ends true true
      let value ← valueUnless fuel ends true true
      return (key, value) :: (← blockEntries fuel)
    else
      expect .blockEnd
      return []

/-- The value of a key, if its mark is next. -/
def valueUnless : Nat → List Token → Bool → Bool → Read Nat
  | 0, _, _, _ => refuse
  | fuel + 1, ends, block, dashes => do
    if ← isNext [.value] then
      advance
      nodeUnless fuel ends block dashes
    else nothing

/-- The items of a sequence in brackets. A key makes a mapping of one entry. -/
def flowItems : Nat → Bool → Read (List Nat)
  | 0, _ => refuse
  | fuel + 1, isFirst => do
    if ← isNext [.closeSequence] then
      advance
      return []
    if !isFirst then expect .comma
    match ← peek with
    | .key =>
      let number ← addNode mappingTag (.mapping [])
      advance
      let ends := [Token.comma, .closeSequence]
      let key ← nodeUnless fuel (.value :: ends) false false
      let value ← valueUnless fuel ends false false
      setContent number (.mapping [(key, value)])
      return number :: (← flowItems fuel false)
    | .closeSequence =>
      advance
      return []
    | _ =>
      let first ← node fuel false false
      return first :: (← flowItems fuel false)

/-- The entries of a mapping in brackets. -/
def flowEntries : Nat → Bool → Read (List (Nat × Nat))
  | 0, _ => refuse
  | fuel + 1, isFirst => do
    if ← isNext [.closeMapping] then
      advance
      return []
    if !isFirst then expect .comma
    match ← peek with
    | .key =>
      advance
      let ends := [Token.comma, .closeMapping]
      let key ← nodeUnless fuel (.value :: ends) false false
      let value ← valueUnless fuel ends false false
      return (key, value) :: (← flowEntries fuel false)
    | .closeMapping =>
      advance
      return []
    | _ =>
      let key ← node fuel false false
      let value ← nothing
      return (key, value) :: (← flowEntries fuel false)

end

/-- The handles that need no directive. -/
def standardHandles : List (String × String) := [("!", "!"), ("!!", core)]

/-- The directives in front of a document, with the handles that they define. There is one version
at most, and it is the first; no handle is defined twice. -/
def directives : Nat → Bool → List (String × String) → Read (List (String × String))
  | 0, _, _ => refuse
  | fuel + 1, versioned, handles => do
    match ← peek with
    | .directive directive =>
      advance
      match directive with
      | .version major =>
        if versioned || major ≠ 1 then throw .malformed
        directives fuel true handles
      | .handle handle expansion =>
        if (handles.lookup handle).isSome then throw .malformed
        directives fuel versioned ((handle, expansion) :: handles)
      | .other => directives fuel versioned handles
    | _ => return handles

/-- The document of a text, if there is one. -/
def document (fuel : Nat) : Read (Option Nat) := do
  match ← peek with
  | .endOfText => return none
  | .directive _ | .documentStart =>
    let handles ← directives fuel false []
    modify fun r => { r with handles := handles ++ standardHandles }
    expect .documentStart
    match ← peek with
    | .directive _ | .documentStart | .documentEnd | .endOfText => return some (← nothing)
    | _ => return some (← node fuel true false)
  | _ =>
    modify fun r => { r with handles := standardHandles }
    return some (← node fuel true false)

/-- What may follow the document: marks of its end. -/
def ending : Nat → Read Unit
  | 0 => refuse
  | fuel + 1 => do
    if ← isNext [.documentEnd] then
      advance
      ending fuel
    else expect .endOfText

/-- The document that some tokens make. -/
def ofTokens (tokens : List Token) : Except Fault Graph :=
  let fuel := 3 * tokens.length + 3
  let reading : Read (Option Nat) := do
    let root ← document fuel
    ending fuel
    return root
  match reading { rest := tokens } with
  | .ok root r => .ok ⟨r.nodes, root⟩
  | .error fault _ => .error fault

/-- The document of a text. -/
def ofText (text : String) : Except Fault Graph := ofTokens (tokensOf text.toList)

end Graph

end ProviderRegistry.Yaml
