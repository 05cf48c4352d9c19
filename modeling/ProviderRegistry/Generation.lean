import ProviderRegistry.Session
import ProviderRegistry.Source.Round
import ProviderRegistry.Storage.Directory

/-!
# Generations

One session over a source tree, from its start to its end: a round with everything that the sources
declare, and the last round, which brings the listings up to date. A module that cannot be read as
source text is skipped with a warning. If the listings that are there cannot even be looked at,
that is told and nothing is done.

The directory of the listings must have a name that the system can be told, which no surrogate is
part of.
-/

namespace ProviderRegistry

/-- What is to be generated: from which sources, where to, for which flavor and under which
options. -/
structure Order where
  source : Path
  output : Path
  flavor : Flavor
  options : Options

/-- What a generation did. -/
structure Generation where
  flavor : Flavor
  resources : Path
  disabled : Bool := false
  reports : List Report := []
  diagnostics : Diagnostics := []

namespace Generation

/-- Did nothing go wrong? -/
def passed (g : Generation) : Bool := !g.diagnostics.hasErrors

/-- The report of the last round. -/
def final? (g : Generation) : Option Report := g.reports.getLast?

end Generation

namespace Order

/-- The order to generate from one tree into another, which is the tree of the sources unless it is
named. -/
def ofPaths (source output : String) (flavor : Flavor) (options : Options) : Order where
  source := Path.ofString source
  output := Path.ofString (if output.isEmpty then source else output)
  flavor := flavor
  options := options

/-- The directory of the listings below the output root: the one that the options name, or the one
of the flavor. -/
def dir (order : Order) : String :=
  if order.options.dir.isEmpty then order.flavor.defaultDir else order.options.dir

/-- The storage of the listings. -/
def storage (order : Order) (tree : FileTree) (clock : Nat) : Directory :=
  .below tree order.output order.dir toolName clock

/-- A generation that has not done anything yet. -/
def blank (order : Order) : Generation where
  flavor := order.flavor
  resources := order.output.child order.dir

/-- What is told of a module that cannot be read as source text. -/
def skipped (place : String) : Event :=
  .warning .both s!"Skipping unparsable module {place}"

/-- What is told when the listings cannot be looked at. -/
def unreadable (failure : OsFailure) : Event :=
  .diagnosed { severity := .error, message := s!"{failure.errno.kind}: {failure.message}" }

/-- The rounds of a session that has started, over any storage. -/
def rounds {σ : Type} [Storage σ] (order : Order) (tree : FileTree) (duration : Nat) :
    EStateM Fault (Session σ) (List Report) := do
  let round ← Session.work (Work.ofExcept (Source.Round.ofTree tree order.source))
  Session.work (Work.tell (round.syntaxErrors.map skipped))
  let first ← Session.round round.declarations (some round.annotated) false duration
  let last ← Session.finish duration
  return [first, last]

/-- Why the directory of the listings cannot be told to the system, if it cannot. -/
def unencodable? (order : Order) : Option RawText.Unencodable :=
  order.options.dirValue?.bind fun value =>
    match value.encode with
    | .ok _ => none
    | .error fault => some fault

/-- Generates, and gives the tree as it is then. A directory that cannot be told to the system is
refused at once, and not only where it is to be made. -/
def run (order : Order) (tree : FileTree) (clock duration : Nat) :
    FileTree × Except Fault Generation :=
  if order.options.disabled then (tree, .ok { order.blank with disabled := true })
  else if let some fault := order.unencodable? then (tree, .error (.encoding fault))
  else
    let session := Session.new order.flavor order.options (order.storage tree clock)
    let ended (session : Session Directory) (events : List Event) (reports : List Report) :
        Generation :=
      { order.blank with reports, diagnostics := (session.journal.recordAll events).diagnostics }
    match Session.start session with
    | .error (.os failure) session => (tree, .ok (ended session [unreadable failure] []))
    | .error fault _ => (tree, .error fault)
    | .ok () session =>
      match order.rounds tree duration session with
      | .error fault session => (session.bench.storage.tree, .error fault)
      | .ok reports session => (session.bench.storage.tree, .ok (ended session [] reports))

end Order

end ProviderRegistry
