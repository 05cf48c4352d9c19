import ProviderRegistry.FileTree
import ProviderRegistry.Options
import ProviderRegistry.Yaml.Meaning

/-!
# Options from a file

A configuration file is a YAML document with a section of its own for the options. Of a switch that
the file gives as on or off the option gets the word, and of anything else its text. Options given
elsewhere win over the ones in the file; without a file there are only these.
-/

namespace ProviderRegistry.Config

/-- The configuration file, unless another one is named. -/
def defaultFile : String := "provreg.yaml"

/-- The section of the options. -/
def sectionName : String := "provreg"

/-- Why the options could not be read. -/
inductive Fault where
  | read (failure : FileTree.ReadFailure)
  | yaml (fault : Yaml.Fault)
  /-- The document has no sections, and is not empty. -/
  | noSections
  /-- The section holds something, but not options. -/
  | noOptions

/-- The fault in words. -/
def Fault.message : Fault → String
  | .read failure => failure.message
  | .yaml fault => fault.message
  | .noSections => "the document has no sections"
  | .noOptions => "the section holds no options"

/-- The part of a value under a key. -/
def part? (value : Yaml.Value) (entries : List (Yaml.Scalar × Nat)) (key : String) :
    Option Yaml.Value :=
  (entries.find? (·.1.equals (.text key))).map fun entry => value.part entry.2

/-- The section of the options in a document, unless it is missing or empty. -/
def section? (document : Yaml.Value) : Except Fault (Option Yaml.Value) :=
  if document.isEmpty then .ok none
  else
    match document.cell with
    | .mapping entries =>
      .ok ((part? document entries sectionName).filter (!·.isEmpty))
    | _ => .error .noSections

/-- A value as an option takes it; nothing leaves the option without value. -/
def optionText (value : Yaml.Value) : Except Fault (Option RawText) :=
  match value.cell with
  | .scalar .null => .ok none
  | .scalar (.bool on) => .ok (some (if on then "true" else "false"))
  | _ => (value.toText.map some).mapError fun fault => .yaml (.numeral fault)

/-- One text stands inside another. -/
def occursIn (sought : List CodePoint) : List CodePoint → Bool
  | [] => sought.isEmpty
  | c :: rest => sought.isPrefixOf (c :: rest) || occursIn sought rest

/-- The options in a section. What holds other things than options may stand there as long as the
name of no option is among them. -/
def optionsIn (section_ : Yaml.Value) : Except Fault (List (String × Option RawText)) :=
  match section_.cell with
  | .mapping entries =>
    let found := Options.names.filterMap fun name => (part? section_ entries name).map ((name, ·))
    found.mapM fun (name, value) => return (name, ← optionText value)
  | .list items =>
    let named := items.any fun item =>
      match section_.cellAt item with
      | .scalar (.text text) => Options.names.any fun name => text == name
      | _ => false
    if named then .error .noOptions else .ok []
  | .set members =>
    if members.any fun member => Options.names.any fun name => member.equals (.text name) then
      .error .noOptions
    else .ok []
  | .pairs _ => .ok []
  | .scalar (.text text) =>
    if Options.names.any fun name => occursIn (name : RawText).points text.points then
      .error .noOptions
    else .ok []
  | .scalar _ => .error .noOptions

/-- The options that a text gives. -/
def ofText (text : String) : Except Fault (List (String × Option RawText)) := do
  let document ← (Yaml.valueOf text).mapError Fault.yaml
  match ← section? document with
  | none => return []
  | some section_ => optionsIn section_

/-- The options that a file gives, if there is one. -/
def ofFile (tree : FileTree) (path : Path) : Except Fault (List (String × Option RawText)) :=
  match tree.find? path with
  | .error failure => .error (.read (.os failure))
  | .ok none => .ok []
  | .ok (some _) =>
    match tree.readTextInPieces path with
    | .error failure => .error (.read failure)
    | .ok text => ofText text

/-- The options of a file with others on top. -/
def load (tree : FileTree) (path : Path) (winning : List (String × Option RawText))
    (processor : String) : Except Fault Options := do
  return ⟨processor, Options.override (← ofFile tree path) winning⟩

end ProviderRegistry.Config
