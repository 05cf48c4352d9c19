import ProviderRegistry.CommandLine.Command
import ProviderRegistry.CommandLine.Markup
import ProviderRegistry.Generation
import ProviderRegistry.Text.Capital

/-!
# Running commands

What a command prints and what it does to the file tree. A run ends well, or with failures that
were printed, or it is refused as a misuse, or it is stopped by a fault. What was done and printed
before a fault stays.
-/

namespace ProviderRegistry.CommandLine

/-- Something printed. -/
inductive Printed where
  | line (text : String)
  /-- A text in a frame with a title. -/
  | panel (title text : String)
  | table (title : String) (columns : List String) (rows : List (List String))
  deriving DecidableEq, Repr

/-- What is printed, as a text. -/
def Printed.toText : Printed → String
  | .line text => text
  | .panel title text => s!"{title}:\n{text}"
  | .table title columns rows =>
    "\n".intercalate (title :: (columns :: rows).map (" | ".intercalate ·))

/-- What stops a run. -/
inductive Fault where
  | config (fault : Config.Fault)
  | registry (fault : ProviderRegistry.Fault)
  | markup (fault : Markup.Fault)
  /-- A text was to be printed that has no octets. -/
  | printing (fault : RawText.Unencodable)

/-- The fault in words. -/
def Fault.message : Fault → String
  | .config fault => fault.message
  | .registry fault => fault.message
  | .markup fault => fault.message
  | .printing fault => fault.message

/-- Why a run ends before its end. -/
inductive Ending where
  /-- Something failed, which was printed. -/
  | failed
  | misused
  | stopped (fault : Fault)

/-- The tree and what was printed. -/
structure Console where
  tree : FileTree
  printed : List Printed := []

/-- A step of a run. -/
abbrev Act (α : Type) := EStateM Ending Console α

namespace Act

/-- Prints something. -/
def put (printed : Printed) : Act Unit :=
  modify fun console => { console with printed := console.printed ++ [printed] }

/-- A text with tags, as it is shown. -/
def shown (markup : String) : Act String :=
  match Markup.plain markup with
  | .ok text => pure text
  | .error fault => throw (.stopped (.markup fault))

/-- Prints a text with tags. -/
def say (markup : String) : Act Unit := do put (.line (← shown markup))

/-- A text that is to be printed, which must have octets. -/
def printable (text : RawText) : Act String :=
  if text.isWhole then pure (String.ofList text.chars)
  else throw (.stopped (.printing text.unencodable))

/-- The options from their sources. -/
def load (sources : OptionSources) : Act Options := do
  let tree := (← get).tree
  match Config.load tree (Path.ofString sources.config) sources.given toolName with
  | .ok options => return options
  | .error fault => throw (.stopped (.config fault))

/-- What the registry gives, or its fault. -/
def ofExcept {α : Type} : Except ProviderRegistry.Fault α → Act α
  | .ok value => pure value
  | .error fault => throw (.stopped (.registry fault))

/-- Refuses a path that leads to no directory. -/
def requireDirectory (path : String) : Act Unit := do
  match path.isEmpty, (← get).tree.find (Path.ofString path) with
  | false, .ok .directory => return
  | _, _ => throw .misused

/-- Generates, and keeps the tree as it is then. -/
def generated (order : Order) (clock duration : Nat) : Act Generation := do
  let (tree, outcome) := order.run (← get).tree clock duration
  modify fun console => { console with tree }
  ofExcept outcome

/-- Prints a diagnostic. Notes are printed only if that is asked for. -/
def report (options : Options) (d : Diagnostic) : Act Unit := do
  let place :=
    if d.location.isEmpty then "" else s!" [dim]({Markup.escape d.location})[/]"
  match d.severity with
  | .error => say s!"  [red]x[/] {Markup.escape (← printable d.message)}{place}"
  | .warning => say s!"  [yellow]![/] {Markup.escape (← printable d.message)}{place}"
  | .note =>
    if options.verbose then
      let message ← printable d.message
      let kept := (message.toList.reverse.dropWhile Text.isBlank).reverse
      say s!"  [dim]{Markup.escape (String.ofList kept)}[/]"

/-- Generates listings, and prints what was found and done. -/
def generate (source output : String) (flavor : Flavor) (sources : OptionSources)
    (clock duration : Nat) : Act Unit := do
  requireDirectory source
  let options ← load sources
  say s!"\n[bold blue]provreg[/] — Generating {flavor.name} registry: {source}\n"
  let result ← generated (.ofPaths source output flavor options) clock duration
  if result.disabled then
    say "[yellow]Processing disabled.[/]"
  else
    result.diagnostics.forM (report options)
    let summary := "\n".intercalate (result.reports.map Report.summary)
    put (.panel (← shown result.resources.toString) (← shown summary))
    let written := (result.final?.map (·.written)).getD []
    written.forM fun name => say s!"  [green]v[/] {name}"
    if !result.passed then
      say s!"\n[red]FAIL[/] {result.diagnostics.summary}"
      throw .failed

/-- The row of a listing: its name, how many providers it has, and which. -/
def row (directory : Directory) (name : String) : Act (List String) := do
  let text ← ofExcept (Storage.listing directory name).outcome
  let providers := ((Entry.bare name).insertAll (Listing.parse (text.getD ""))).providers.toList
  [name, toString providers.length, "\n".intercalate providers].mapM shown

/-- Prints the listings in a directory. -/
def display (root : String) (flavor : Flavor) (dir : Option String) : Act Unit := do
  requireDirectory root
  let named := normalDirectory dir
  let dir := if named.isEmpty then flavor.defaultDir else named
  let directory := Directory.below (← get).tree (Path.ofString root) dir toolName 0
  let names ← ofExcept (Storage.names directory).outcome
  if names.isEmpty then
    say s!"[yellow]No {flavor.name} resources found.[/]"
  else
    let rows ← names.mapM (row directory)
    let title := s!"{Text.capitalized flavor.name} registry ({names.length} resources)"
    put (.table title ["Name", "Providers", "Provider list"] rows)

/-- Prints the options, and a warning for each value that is not understood. -/
def describeOptions (sources : OptionSources) : Act Unit := do
  let options ← load sources
  put (.line (← printable options.report))
  options.warnings.forM fun warning => do
    say s!"  [yellow]![/] {Markup.escape (← printable warning)}"

/-- Runs a command. Help and the version are printed elsewhere. -/
def run (command : Command) (clock duration : Nat) : Act Unit :=
  match command with
  | .version | .help => pure ()
  | .generate source output flavor sources =>
    generate source output flavor sources clock duration
  | .display root flavor dir => display root flavor dir
  | .options sources => describeOptions sources

end Act

/-- How a run went: its exit code, what it printed, the plain text in front of that, the fault that
stopped it, and the tree as it is then. -/
structure Outcome where
  exitCode : UInt32
  printed : List Printed
  output : String
  fault : Option Fault
  tree : FileTree

/-- The outcome of a run that ended before its end. -/
def Outcome.ofEnding (console : Console) : Ending → Outcome
  | .failed => ⟨1, console.printed, "", none, console.tree⟩
  | .misused => ⟨2, [], "", none, console.tree⟩
  | .stopped fault => ⟨1, console.printed, "", some fault, console.tree⟩

/-- What the command line may ask for, in short. -/
def usage : String :=
  "Usage: provreg [--debug] [--version] [--help] COMMAND ...\n\n" ++
  "  generate SOURCE_ROOT [-o OUTPUT] [-f FLAVOR] [--dir DIR] [--log] [-v] [--disabled]\n" ++
  "           [-c CONFIG] [-O KEY[=VALUE]]...\n" ++
  "  show OUTPUT_ROOT [-f FLAVOR] [--dir DIR]\n" ++
  "  options [-c CONFIG] [-O KEY[=VALUE]]...\n"

/-- Runs a command line on a file tree. -/
def run (words : List String) (tree : FileTree) (clock duration : Nat) : Outcome :=
  match Command.ofWords? words with
  | none => .ofEnding { tree } .misused
  | some .version => ⟨0, [], s!"main, version {version}\n", none, tree⟩
  | some .help => ⟨0, [], usage, none, tree⟩
  | some command =>
    match Act.run command clock duration { tree } with
    | .ok () console => ⟨0, console.printed, "", none, console.tree⟩
    | .error ending console => .ofEnding console ending

end ProviderRegistry.CommandLine
