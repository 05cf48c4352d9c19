import ProviderRegistry.CommandLine.Arguments
import ProviderRegistry.Config
import ProviderRegistry.Flavor
import ProviderRegistry.Text.Split

/-!
# Commands

What a command line asks for. `Command.ofWords?` refuses what no command is meant by: an unknown
option, a missing value, a word too many. Whether the named directories exist is not decided here.
-/

namespace ProviderRegistry.CommandLine

/-- The version of the tool. -/
def version : String := "0.3.0"

/-- Where the options of a run come from: a configuration file, and options that win over it. -/
structure OptionSources where
  config : String
  given : List (String × Option RawText)
  deriving DecidableEq, Repr

/-- What a command line asks for. -/
inductive Command where
  | version
  | help
  /-- Generate the listings for a source tree, below an output root if one is named. -/
  | generate (source output : String) (flavor : Flavor) (options : OptionSources)
  /-- Show the listings below an output root, in a directory if one is named. -/
  | display (root : String) (flavor : Flavor) (dir : Option String)
  /-- Show the options. -/
  | options (options : OptionSources)
  deriving DecidableEq, Repr

namespace Command

/-- The options in front of the command. -/
def mainSpecs : List OptionSpec :=
  [⟨"version", ["--version"], false⟩, ⟨"debug", ["--debug"], false⟩, ⟨"help", ["--help"], false⟩]

/-- The option that names the flavor. -/
def flavorSpec : OptionSpec := ⟨"flavor", ["--flavor", "-f"], true⟩

/-- The option that names the directory of the listings. -/
def dirSpec : OptionSpec := ⟨Options.dirName, ["--dir"], true⟩

/-- The option that asks for help. -/
def helpSpec : OptionSpec := ⟨"help", ["--help"], false⟩

/-- The options that say where options come from. -/
def sourceSpecs : List OptionSpec :=
  [⟨"config", ["--config", "-c"], true⟩, ⟨"option", ["--option", "-O"], true⟩]

/-- The options that are switches. -/
def switchSpecs : List OptionSpec :=
  [⟨Options.logName, ["--log"], false⟩, ⟨Options.verboseName, ["--verbose", "-v"], false⟩,
    ⟨Options.disabledName, ["--disabled"], false⟩]

/-- The options of `generate`. -/
def generateSpecs : List OptionSpec :=
  [⟨"output", ["--output", "-o"], true⟩, flavorSpec, dirSpec, helpSpec] ++ switchSpecs ++
    sourceSpecs

/-- The options of `show`. -/
def displaySpecs : List OptionSpec := [flavorSpec, dirSpec, helpSpec]

/-- The options of `options`. -/
def optionsSpecs : List OptionSpec := helpSpec :: sourceSpecs

/-- An option as a pair of a key and a value; without an equals sign there is no value. -/
def pairOf (word : String) : String × Option RawText :=
  let cs := word.toList
  (Text.trimmed (String.ofList (Text.beforeFirst '=' cs)),
    (Text.afterFirst? '=' cs).map fun value => String.ofList value)

/-- Where the options come from. Switches win over pairs. -/
def optionSources (args : Arguments) : OptionSources where
  config := (args.last? "config").getD Config.defaultFile
  given :=
    let pairs := (args.all "option").map pairOf
    let dir := ((args.last? Options.dirName).map fun dir => given Options.dirName dir).toList
    let switches :=
      [Options.logName, Options.verboseName, Options.disabledName].filter (args.has ·)
    Options.override [] (pairs ++ dir ++ switches.map fun name => given name "true")
where
  /-- An option with a value. -/
  given (name : String) (value : RawText) : String × Option RawText := (name, some value)

/-- The flavor that is named, or the one for services. -/
def flavor? (args : Arguments) : Option Flavor :=
  match args.last? "flavor" with
  | none => some .service
  | some name => Flavor.ofName? name

/-- Sorts words and makes a command of them, unless help is asked for. -/
def withHelp (specs : List OptionSpec) (words : List String) (make : Arguments → Option Command) :
    Option Command := do
  let args ← Arguments.parse specs true {} words
  if args.has "help" then some .help else make args

/-- The command that a name and the words behind it ask for. -/
def ofName? (name : String) (words : List String) : Option Command :=
  if name = "generate" then
    withHelp generateSpecs words fun args =>
      match args.words with
      | [source] => do
        let output := (args.last? "output").getD ""
        some (.generate source output (← flavor? args) (optionSources args))
      | _ => none
  else if name = "show" then
    withHelp displaySpecs words fun args =>
      match args.words with
      | [root] => do some (.display root (← flavor? args) (args.last? Options.dirName))
      | _ => none
  else if name = "options" then
    withHelp optionsSpecs words fun args =>
      if args.words.isEmpty then some (.options (optionSources args)) else none
  else none

/-- The command that a command line asks for. Without any word it asks for help. -/
def ofWords? (words : List String) : Option Command :=
  if words.isEmpty then some .help
  else do
    let args ← Arguments.parse mainSpecs false {} words
    match args.given.find? (·.1 ≠ "debug"), args.words with
    | some ("version", _), _ => some .version
    | some _, _ => some .help
    | none, [] => none
    | none, name :: words => ofName? name words

/-- The paths that a command looks at. -/
def paths : Command → List String
  | .version | .help => []
  | .generate source output _ sources =>
    source :: sources.config :: if output.isEmpty then [] else [output]
  | .display root _ _ => [root]
  | .options sources => [sources.config]

end Command

end ProviderRegistry.CommandLine
