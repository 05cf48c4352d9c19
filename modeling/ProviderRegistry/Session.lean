import ProviderRegistry.Flavor
import ProviderRegistry.Workbench

/-!
# Sessions

A **session** brings the listings of a storage in step with what some sources declare. It starts by
loading every listing. In each round every declaration is first taken from all entries, and then
every marked one that the flavor accepts is registered under its targets. The last round writes the
listings if anything changed; where nothing is left to list, it deletes them.

Rejections and failures of the storage become diagnostics and do not stop a round.
-/

namespace ProviderRegistry

/-- What became of a declaration, or of one of its targets. -/
inductive Verdict where
  | registered (target provider : String)
  | rejected (diagnostic : Diagnostic)
  deriving DecidableEq, Repr

/-- The target and the provider of a registration. -/
def Verdict.registration? : Verdict → Option (String × String)
  | .registered target provider => some (target, provider)
  | .rejected _ => none

/-- The diagnostic of a rejection. -/
def Verdict.rejection? : Verdict → Option Diagnostic
  | .registered .. => none
  | .rejected diagnostic => some diagnostic

/-- What one round did. -/
structure Report where
  number : Nat
  elements : Nat := 0
  removed : List String := []
  registered : List (String × String) := []
  rejected : Diagnostics := []
  final : Bool := false
  modified : Bool := false
  written : List String := []
  deleted : Bool := false
  failures : Diagnostics := []
  deriving DecidableEq, Repr

/-- The round on one line. -/
def Report.summary (r : Report) : String :=
  let outcome :=
    if !r.final then []
    else if !r.modified then ["output up to date"]
    else if r.deleted then ["output deleted"]
    else [s!"{r.written.length} resource(s) written"]
  ", ".intercalate <|
    [s!"round {r.number}: {r.elements} element(s)", s!"{r.registered.length} registration(s)",
      s!"{r.rejected.length} rejection(s)"] ++ outcome

namespace Work

variable {σ : Type}

/-- Rejects a declaration and tells why. -/
def reject (d : Declaration) (objection : Objection) : Work σ Verdict := do
  let rejection ← ofExcept (Rejection.of d objection)
  let diagnostic : Diagnostic :=
    { severity := .error
      message := rejection.message
      declaration := d.name.getD ""
      sourceFile := d.sourceFile
      line := d.line }
  tell [.diagnosed diagnostic]
  return .rejected diagnostic

variable [Storage σ]

/-- Registers a declaration under one target, or rejects it. -/
def registerUnder (flavor : Flavor) (d : Declaration) (target : Option String) :
    Work σ Verdict := do
  match flavor.targetObjection? d target with
  | some objection => reject d objection
  | none =>
    add target d.name
    return .registered (target.getD "") (d.name.getD "")

/-- Registers a declaration under each of its targets, or rejects it. -/
def register (flavor : Flavor) (d : Declaration) : Work σ (List Verdict) := do
  match flavor.objection? d with
  | some objection => return [← reject d objection]
  | none => (flavor.targets d).mapM (registerUnder flavor d)

/-- Takes declarations from all entries. -/
def strip (declarations : List Declaration) : Work σ Unit :=
  declarations.forM fun d => remove d.name

/-- Deletes the listings, and says whether that worked. -/
def deleteListings : Work σ Bool := fun bench =>
  match store Storage.delete bench with
  | .ok () bench => .ok true bench
  | .error (.storage failure) bench =>
    (do
      tell [.warning .both s!"An error occurred while deleting data file: {failure.message}"]
      return false : Work σ Bool) bench
  | .error fault bench => .error fault bench

/-- Writes the listing of an entry; a failure of the storage is told and given back. -/
def writeListing (entry : Entry) : Work σ (Option Diagnostic) := fun bench =>
  match store (Storage.write · entry.name entry.render) bench with
  | .ok () bench => .ok none bench
  | .error (.storage failure) bench =>
    (do
      let diagnostic : Diagnostic :=
        { severity := .error, message := failure.message, declaration := entry.name }
      tell [.diagnosed diagnostic]
      return some diagnostic : Work σ (Option Diagnostic)) bench
  | .error fault bench => .error fault bench

/-- The text of the log so far. -/
def logText (options : Options) : Work σ RawText := do
  return ((Journal.start options).recordAll (← get).told).logText

/-- Brings the storage in step with the registry if anything changed, and completes the report. -/
def flush (options : Options) (report : Report) : Work σ Report := do
  let registry ← registry
  if !registry.isModified then return report
  tell [.logged "Writing output"]
  let entries := registry.entries.filter fun entry => !entry.providers.isEmpty
  if entries.isEmpty then
    return { report with modified := true, deleted := ← deleteListings }
  let outcomes ← entries.mapM fun entry => return (entry.name, ← writeListing entry)
  let text ← logText options
  store (Storage.keepLog · text)
  return { report with
    modified := true
    written := outcomes.filterMap fun (name, failure) => if failure.isNone then some name else none
    failures := outcomes.filterMap (·.2) }

/-- Takes declarations from all entries, registers those that are to be registered, and says in the
report what became of them. -/
def reconcile (flavor : Flavor) (report : Report) (declarations annotated : List Declaration)
    (duration : Nat) : Work σ Report := do
  tell [.logged s!"Starting round with {declarations.length} elements"]
  strip declarations
  let verdicts := (← annotated.mapM (register flavor)).flatten
  tell [.logged s!"Ending round in {duration} milliseconds"]
  return { report with
    elements := declarations.length
    removed := declarations.filterMap Declaration.name
    registered := verdicts.filterMap Verdict.registration?
    rejected := verdicts.filterMap Verdict.rejection? }

/-- One round over declarations, of which some are to be registered. The last one writes the
outcome. -/
def round (flavor : Flavor) (options : Options) (report : Report)
    (declarations annotated : List Declaration) (duration : Nat) : Work σ Report := do
  let report ← reconcile flavor report declarations annotated duration
  if report.final then flush options report else return report

end Work

/-- A session: what it keeps, under which options, and how far it is. -/
structure Session (σ : Type) where
  flavor : Flavor
  options : Options
  bench : Workbench σ
  rounds : Nat
  finished : Bool

namespace Session

variable {σ : Type}

/-- A session that has not loaded anything yet. -/
def new (flavor : Flavor) (options : Options) (storage : σ) : Session σ :=
  ⟨flavor, options, .new storage, 0, false⟩

/-- Lets some work be done on the workbench of a session. -/
def work {α : Type} (step : Work σ α) : EStateM Fault (Session σ) α := fun session =>
  match step session.bench with
  | .ok value bench => .ok value { session with bench }
  | .error fault bench => .error fault { session with bench }

/-- What the user sees and what the log holds. A session that is turned off has nothing to say. -/
def journal (session : Session σ) : Journal :=
  if session.options.disabled then ⟨session.options, [], []⟩
  else (Journal.start session.options).recordAll session.bench.told

variable [Storage σ]

/-- Loads every listing, unless the session is turned off. -/
def start : EStateM Fault (Session σ) Unit := do
  if !(← get).options.disabled then work Work.openSession

/-- A round over declarations. Those to be registered are the ones that carry the marker of the
flavor, unless they are given. The last round writes the outcome and ends the session. A session
that is turned off counts its rounds and does nothing else. -/
def round (declarations : List Declaration) (annotated : Option (List Declaration)) (final : Bool)
    (duration : Nat) : EStateM Fault (Session σ) Report := do
  if (← get).finished then throw .finished
  modify fun session => { session with rounds := session.rounds + 1 }
  let session ← get
  let report : Report := { number := session.rounds, final }
  let marked := declarations.filter (·.hasMarker session.flavor.marker.name)
  let report ←
    if session.options.disabled then pure report
    else work (Work.round session.flavor session.options report declarations
      (annotated.getD marked) duration)
  if final then modify fun session => { session with finished := true }
  return report

/-- The last round, without declarations. -/
def finish (duration : Nat) : EStateM Fault (Session σ) Report := round [] (some []) true duration

end Session

end ProviderRegistry
