import ProviderRegistry.Diagnostic
import ProviderRegistry.Options

/-!
# Journals

What happens in a run is told as **events**: notes and warnings with the place that they are meant
for, and diagnostics. A **journal** turns events into what the user sees and what the log holds,
under the options of the run: a note is seen only when notes are shown, a warning always, and the
log is kept only when it is asked for.

The run itself produces events and never looks at the journal, so the options cannot change what it
does. Their own report and warnings are no events: they open the journal, and may hold surrogates.
-/

namespace ProviderRegistry

/-- Where a note or a warning is meant to go. -/
inductive Place where
  | messages
  | log
  | both
  deriving DecidableEq, Repr

/-- Does the place include the messages to the user? -/
def Place.toMessages : Place → Bool
  | .messages | .both => true
  | .log => false

/-- Does the place include the log? -/
def Place.toLog : Place → Bool
  | .log | .both => true
  | .messages => false

/-- Something that a run tells. -/
inductive Event where
  | note (place : Place) (text : String)
  | warning (place : Place) (text : String)
  | diagnosed (diagnostic : Diagnostic)
  deriving DecidableEq, Repr

/-- A note that is meant for the log alone. -/
def Event.logged (text : String) : Event := .note .log text

/-- What the user sees and what the log holds, under the options of a run. -/
structure Journal where
  options : Options
  diagnostics : Diagnostics
  log : List RawText

namespace Journal

/-- What a note lets the user see. -/
def noteSeen (options : Options) (place : Place) (text : RawText) : Diagnostics :=
  if place.toMessages && options.verbose then [{ severity := .note, message := text }] else []

/-- What a warning lets the user see. -/
def warningSeen (place : Place) (text : RawText) : Diagnostics :=
  if place.toMessages then [{ severity := .warning, message := text }] else []

/-- What a line leaves in the log. -/
def lineLogged (options : Options) (place : Place) (line : RawText) : List RawText :=
  if place.toLog && options.log then [line ++ "\n"] else []

/-- What a warning leaves in the log. -/
def warningLogged (options : Options) (place : Place) (text : RawText) : List RawText :=
  lineLogged options place ("warning: " ++ text)

/-- What an event lets the user see. -/
def seen (options : Options) : Event → Diagnostics
  | .note place text => noteSeen options place text
  | .warning place text => warningSeen place text
  | .diagnosed d => [d]

/-- What an event leaves in the log. -/
def logged (options : Options) : Event → List RawText
  | .note place text => lineLogged options place text
  | .warning place text => warningLogged options place text
  | .diagnosed _ => []

/-- The journal after an event. -/
def record (journal : Journal) (event : Event) : Journal where
  options := journal.options
  diagnostics := journal.diagnostics ++ seen journal.options event
  log := journal.log ++ logged journal.options event

/-- The journal after some events. -/
def recordAll (journal : Journal) (events : List Event) : Journal := events.foldl record journal

/-- A new journal. It opens with the options as they were given, and a warning for each value that
was not understood. -/
def start (options : Options) : Journal where
  options := options
  diagnostics := { severity := .note, message := options.report } ::
    options.warnings.flatMap (warningSeen .both)
  log := options.warnings.flatMap (warningLogged options .both)

/-- The text of the log. -/
def logText (journal : Journal) : RawText := .join journal.log

/-- The journal with an empty log. -/
def clearLog (journal : Journal) : Journal := { journal with log := [] }

/-- The journal with nothing to see. -/
def clearDiagnostics (journal : Journal) : Journal := { journal with diagnostics := [] }

@[simp]
theorem recordAll_nil (journal : Journal) : journal.recordAll [] = journal := rfl

@[simp]
theorem recordAll_append (journal : Journal) (events more : List Event) :
    journal.recordAll (events ++ more) = (journal.recordAll events).recordAll more := by
  simp [recordAll, List.foldl_append]

/-- A journal that recorded events holds what each of them lets see and leaves in the log. -/
theorem recordAll_eq (journal : Journal) (events : List Event) :
    journal.recordAll events =
      { options := journal.options
        diagnostics := journal.diagnostics ++ events.flatMap (seen journal.options)
        log := journal.log ++ events.flatMap (logged journal.options) } := by
  induction events generalizing journal with
  | nil => simp
  | cons event events ih =>
    have h : journal.recordAll (event :: events) = (journal.record event).recordAll events := rfl
    rw [h, ih]
    simp [record, List.append_assoc]

end Journal

end ProviderRegistry
