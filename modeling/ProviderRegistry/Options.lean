import ProviderRegistry.Text.Raw
import ProviderRegistry.Text.Split

/-!
# Options

What a run is asked to do: names with values, where a name may also stand without a value. Four of
the names mean something. Three are switches, `disabled`, `verbose` and `log`; a switch without a
value is on. The fourth, `dir`, is the directory of the listings below the output root.

Everything an option means is a function of the options as given, so that the report can show them
as they were given. A value may hold surrogates, as nobody looked at it before.
-/

namespace ProviderRegistry

/-- A text with the capitals of ASCII made small. No other character has a small form among the
letters of the words that texts are compared with here. -/
def foldCase (s : String) : String := String.ofList (s.toList.map Char.toLower)

/-- A directory in its normal form: slashes for backslashes, none in front, and one at the end
unless the text is empty. -/
def normalDirectory (path : Option String) : String :=
  let slashed := (path.getD "").toList.map fun c => if c = '\\' then '/' else c
  let relative := slashed.dropWhile (· == '/')
  if relative.isEmpty || relative.getLast? == some '/' then String.ofList relative
  else String.ofList (relative ++ ['/'])

/-- The options of a run as they were given, and who reads them. -/
structure Options where
  processor : String
  given : List (String × Option RawText)
  deriving Repr

namespace Options

/-- The option that turns all processing off. -/
def disabledName : String := "disabled"

/-- The option that shows notes. -/
def verboseName : String := "verbose"

/-- The option that keeps a log. -/
def logName : String := "log"

/-- The option that names the directory of the listings. -/
def dirName : String := "dir"

/-- The options that are switches, in the order of the report. -/
def switchNames : List String := [disabledName, verboseName, logName]

/-- The options that mean something, in the order of the report. -/
def names : List String := switchNames ++ [dirName]

/-- What was given for a name: nothing, the bare name, or a value. -/
def given? (options : Options) (name : String) : Option (Option RawText) :=
  options.given.lookup name

/-- A value spells a word, in whatever letters. -/
def spells (value : RawText) (word : String) : Bool :=
  value.isWhole && foldCase (String.ofList value.chars) == word

/-- Is a switch on? A value that is neither word leaves it off. -/
def isOn (options : Options) (name : String) : Bool :=
  match options.given? name with
  | none => false
  | some none => true
  | some (some value) => spells value "true"

/-- The value of a switch that is neither word. -/
def unrecognized? (options : Options) (name : String) : Option RawText :=
  match options.given? name with
  | some (some value) => if spells value "true" || spells value "false" then none else some value
  | _ => none

/-- Is all processing off? -/
def disabled (options : Options) : Bool := options.isOn disabledName

/-- Are notes shown? -/
def verbose (options : Options) : Bool := options.isOn verboseName

/-- Is a log kept? -/
def log (options : Options) : Bool := options.isOn logName

/-- The value that names the directory of the listings, if there is one. -/
def dirValue? (options : Options) : Option RawText := (options.given? dirName).join

/-- The directory of the listings, empty where none was given. -/
def dir (options : Options) : String := normalDirectory (options.dirValue?.map RawText.mended)

/-- One warning for each switch whose value is neither word. -/
def warnings (options : Options) : List RawText :=
  switchNames.filterMap fun name => (options.unrecognized? name).map fun value =>
    s!"Unrecognized value for parameter '{name}'. Found '" ++ value ++
      "'.  Legal values: 'true', 'false'."

/-- How an option was given, for the report; a bare name is shown as an empty value. -/
def describe (options : Options) (name : String) : RawText :=
  match options.given? name with
  | none => "missing"
  | some none => "''"
  | some (some value) => "'" ++ value ++ "'"

/-- The options as they were given, one line for each that means something. -/
def report (options : Options) : RawText :=
  let lines := names.map fun name => (s!" - {name}: " : RawText) ++ options.describe name
  .join <| ((s!"Initializing provreg processor {options.processor}" : RawText) ::
    "Used options:" :: lines).map (· ++ "\n")

/-- The options with others on top: a name given again keeps its place and takes the new value. -/
def override {α : Type} (given winning : List (String × α)) : List (String × α) :=
  winning.foldl (fun given (name, value) =>
    if given.any (·.1 == name) then
      given.map fun entry => if entry.1 == name then (name, value) else entry
    else given ++ [(name, value)]) given

end Options

end ProviderRegistry
