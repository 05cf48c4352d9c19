import ProviderRegistry.Proofs.Source.Marked
import ProviderRegistry.Proofs.Storage.Logs

/-!
# What the logging options change

Options that differ in nothing but whether notes are shown and whether a log is kept
(`Options.DifferInLogging`) turn a session off alike, name one directory and warn of the same
values. So sessions under them run in parallel, and what they leave differs in logs alone
(`Session.DifferInLogs`): the user sees the same errors and warnings in the same order, since the
events that they tell differ in the texts of notes for the log only (`Journal.serious_recordAll`).

The same is so of whole generations (`Order.DifferInLogging.run`) and of their sessions
(`Order.DifferInLogging.session`), as long as their logs have octets; `logging_changes_logs_alone`
puts it together. A log without octets is not passed over like one that the system does not take,
and ends the generation (`unloggable_value_ends_generation`).
-/

namespace ProviderRegistry

/-! ### Options -/

/-- Options **differ in logging** alone when they say the same but of showing notes and of keeping
a log, and what they say of these is understood. -/
structure Options.DifferInLogging (options other : Options) : Prop where
  processor : options.processor = other.processor
  given? : ∀ name, name ≠ verboseName → name ≠ logName → options.given? name = other.given? name
  verbose : options.unrecognized? verboseName = none ∧ other.unrecognized? verboseName = none
  log : options.unrecognized? logName = none ∧ other.unrecognized? logName = none

namespace Options.DifferInLogging

variable {options other : Options}

theorem disabled (h : options.DifferInLogging other) : options.disabled = other.disabled := by
  rw [Options.disabled, Options.disabled, isOn, isOn, h.given? _ (by decide) (by decide)]

theorem dirValue? (h : options.DifferInLogging other) : options.dirValue? = other.dirValue? := by
  rw [Options.dirValue?, Options.dirValue?, h.given? _ (by decide) (by decide)]

theorem dir (h : options.DifferInLogging other) : options.dir = other.dir := by
  rw [Options.dir, Options.dir, h.dirValue?]

theorem warnings (h : options.DifferInLogging other) : options.warnings = other.warnings := by
  have hdisabled : options.unrecognized? disabledName = other.unrecognized? disabledName := by
    rw [unrecognized?, unrecognized?, h.given? _ (by decide) (by decide)]
  refine List.filterMap_congr fun name hname => ?_
  rw [switchNames, List.mem_cons, List.mem_cons, List.mem_singleton] at hname
  rcases hname with rfl | rfl | rfl
  · rw [hdisabled]
  · rw [h.verbose.1, h.verbose.2]
  · rw [h.log.1, h.log.2]

/-- Options that differ in logging are loggable alike. -/
theorem loggable (h : options.DifferInLogging other) (hloggable : options.Loggable) :
    other.Loggable := by
  intro name hname value hvalue
  rw [switchNames, List.mem_cons, List.mem_cons, List.mem_singleton] at hname
  rcases hname with rfl | rfl | rfl
  · rw [← h.given? _ (by decide) (by decide)] at hvalue
    exact hloggable _ List.mem_cons_self value hvalue
  · exact isWhole_of_unrecognized?_eq_none h.verbose.2 hvalue
  · exact isWhole_of_unrecognized?_eq_none h.log.2 hvalue

end Options.DifferInLogging

/-! ### Errors and warnings -/

/-- The errors and the warnings, in the order in which they came. -/
def Diagnostics.serious (ds : Diagnostics) : Diagnostics := ds.filter fun d => d.severity ≠ .note

@[simp]
theorem Diagnostics.serious_append (ds more : Diagnostics) :
    serious (ds ++ more) = ds.serious ++ serious more :=
  List.filter_append ..

namespace Journal

variable {options options' : Options}

/-- Events that are alike let the user see the same errors and warnings. -/
theorem serious_seen {event event' : Event} (h : event.Alike event') :
    Diagnostics.serious (seen options event) = Diagnostics.serious (seen options' event') := by
  cases h with
  | logged text text' => rfl
  | same event =>
    cases event with
    | diagnosed d => rfl
    | warning place text => rfl
    | note place text =>
      have hnone : ∀ options, Diagnostics.serious (noteSeen options place text) = [] := by
        intro options
        rw [noteSeen]
        split <;> rfl
      exact (hnone options).trans (hnone options').symm

/-- Journals that show the same errors and warnings do so after alike events. -/
theorem serious_recordAll {journal journal' : Journal} {events events' : List Event}
    (h : journal.diagnostics.serious = journal'.diagnostics.serious)
    (hevents : List.Forall₂ Event.Alike events events') :
    (journal.recordAll events).diagnostics.serious =
      (journal'.recordAll events').diagnostics.serious := by
  induction hevents generalizing journal journal' with
  | nil => exact h
  | @cons event event' events events' hevent _ ih =>
    have hfirst : (journal.record event).diagnostics.serious =
        (journal'.record event').diagnostics.serious := by
      rw [record, record, Diagnostics.serious_append, Diagnostics.serious_append, h,
        serious_seen hevent]
    exact ih hfirst

/-- Journals whose options warn of the same open with the same errors and warnings. -/
theorem serious_start (h : options.warnings = options'.warnings) :
    (start options).diagnostics.serious = (start options').diagnostics.serious := by
  -- the report of the options is a note
  have hopening : ∀ options : Options, (start options).diagnostics.serious =
      Diagnostics.serious (options.warnings.flatMap (warningSeen .both)) := fun _ => rfl
  rw [hopening, hopening, h]

/-- If notes are shown alike, events that are alike let the user see the same. -/
theorem flatMap_seen (hverbose : options.verbose = options'.verbose) {events events' : List Event}
    (h : List.Forall₂ Event.Alike events events') :
    events.flatMap (seen options) = events'.flatMap (seen options') := by
  induction h with
  | nil => rfl
  | @cons event event' _ _ hevent _ ih =>
    have hseen : seen options event = seen options' event' := by
      cases hevent with
      | logged text text' => rfl
      | same event => cases event <;> simp only [seen, noteSeen, hverbose]
    rw [List.flatMap_cons, List.flatMap_cons, hseen, ih]

/-- A journal shows the report of the options first, and then what it was told. -/
theorem tail_diagnostics (options : Options) (told : List Event) :
    ((start options).recordAll told).diagnostics.tail =
      options.warnings.flatMap (warningSeen .both) ++ told.flatMap (seen options) := by
  rw [recordAll_eq]
  rfl

end Journal

/-! ### Sessions -/

/-- Two sessions over watched storages **differ in logs** when they are equally far, have the same
registry, changed their storages by the same calls and showed the same errors and warnings, and a
session whose options turn the log off has none and handed over none. If notes are shown alike,
they showed the same but for the report of the options, which comes first. What the storages differ
in is left to a relation. -/
structure Session.DifferInLogs {σ : Type} (Q : σ → σ → Prop)
    (session other : Session (Watched σ)) : Prop where
  rounds : session.rounds = other.rounds
  finished : session.finished = other.finished
  registry : session.bench.registry = other.bench.registry
  changes : session.bench.storage.changes = other.bench.storage.changes
  storage : Q session.bench.storage.storage other.bench.storage.storage
  serious : session.journal.diagnostics.serious = other.journal.diagnostics.serious
  shown : session.options.verbose = other.options.verbose →
    session.journal.diagnostics.tail = other.journal.diagnostics.tail
  off : session.options.log = false → session.journal.log = [] ∧ session.bench.storage.NoLog
  off' : other.options.log = false → other.journal.log = [] ∧ other.bench.storage.NoLog

namespace Session

theorem log_journal_of_off {σ : Type} {session : Session σ} (hoff : session.options.log = false) :
    session.journal.log = [] := by
  rw [journal]
  split
  · rfl
  · exact Journal.log_recordAll_of_off hoff _

variable {options other : Options}

/-- Parallel sessions show the same errors and warnings, also after more events. -/
theorem Parallel.serious {σ τ : Type} {R Q : σ → τ → Prop}
    (hoptions : options.DifferInLogging other) {session : Session σ} {session' : Session τ}
    (h : session.Parallel options other R Q session') (events : List Event) :
    (session.journal.recordAll events).diagnostics.serious =
      (session'.journal.recordAll events).diagnostics.serious := by
  refine Journal.serious_recordAll ?_ (Event.alike_same events)
  rw [journal, journal, h.options, h.options', ← hoptions.disabled]
  split
  · rfl
  · exact Journal.serious_recordAll (Journal.serious_start hoptions.warnings) h.bench.told

/-- If notes are shown alike, parallel sessions show the same but for the report of the options. -/
theorem Parallel.shown {σ τ : Type} {R Q : σ → τ → Prop} (hoptions : options.DifferInLogging other)
    (hverbose : options.verbose = other.verbose) {session : Session σ} {session' : Session τ}
    (h : session.Parallel options other R Q session') (events : List Event) :
    (session.journal.recordAll events).diagnostics.tail =
      (session'.journal.recordAll events).diagnostics.tail := by
  rw [journal, journal, h.options, h.options', ← hoptions.disabled]
  split
  · simp only [Journal.recordAll_eq, Journal.flatMap_seen hverbose (Event.alike_same events)]
  · rw [← Journal.recordAll_append, ← Journal.recordAll_append, Journal.tail_diagnostics,
      Journal.tail_diagnostics, hoptions.warnings]
    exact congrArg _ (Journal.flatMap_seen hverbose
      (List.rel_append h.bench.told (Event.alike_same events)))

/-- **Parallel sessions** over watched storages differ in logs. -/
theorem Parallel.differInLogs {σ : Type} {R Q : σ → σ → Prop}
    (hoptions : options.DifferInLogging other) {session session' : Session (Watched σ)}
    (h : session.Parallel options other (Watched.DifferInLogs options other R)
      (Watched.DifferInLogs options other Q) session') :
    session.DifferInLogs Q session' where
  rounds := h.rounds
  finished := h.finished
  registry := h.bench.registry
  changes := h.bench.storage.1.changes
  storage := h.bench.storage.1.storage
  serious := h.serious hoptions []
  shown hverbose := h.shown hoptions (h.options ▸ h.options' ▸ hverbose) []
  off hoff := ⟨log_journal_of_off hoff, h.bench.storage.1.off (h.options ▸ hoff)⟩
  off' hoff := ⟨log_journal_of_off hoff, h.bench.storage.1.off' (h.options' ▸ hoff)⟩

end Session

/-! ### Generations -/

/-- A generation with a part of what it showed. -/
def Generation.showing (part : Diagnostics → Diagnostics) (g : Generation) : Generation :=
  { g with diagnostics := part g.diagnostics }

/-- Orders **differ in logging** alone when their options do. -/
structure Order.DifferInLogging (order other : Order) : Prop where
  source : order.source = other.source
  output : order.output = other.output
  flavor : order.flavor = other.flavor
  options : order.options.DifferInLogging other.options

/-- Two runs of orders at two times **differ in logs** when they come to the same but for notes, or
but for the report of the options if notes are shown alike, and their trees agree but at the
locations of the logs, which are exempt only where a log is asked for. -/
structure Order.DifferInLogs (order other : Order) (clock clock' : ℕ)
    (run run' : FileTree × Except Fault Generation) : Prop where
  serious : run.2.map (Generation.showing .serious) = run'.2.map (Generation.showing .serious)
  shown : order.options.verbose = other.options.verbose →
    run.2.map (Generation.showing List.tail) = run'.2.map (Generation.showing List.tail)
  tree : run.1.AgreesBut
    (fun location => (order.options.log = true ∧ (order.storage run.1 clock).IsLog location) ∨
      (other.options.log = true ∧ (other.storage run'.1 clock').IsLog location)) run'.1

theorem Order.onTree_storage (order : Order) (tree tree' : FileTree) (clock : ℕ) :
    (order.storage tree clock).onTree tree' = order.storage tree' clock := by
  simp only [storage, Directory.below, Directory.onTree]

namespace Order.DifferInLogging

variable {order other : Order}

theorem dir (h : order.DifferInLogging other) : order.dir = other.dir := by
  rw [Order.dir, Order.dir, h.options.dir, h.flavor]

theorem blank (h : order.DifferInLogging other) : order.blank = other.blank := by
  rw [Order.blank, Order.blank, h.dir, h.output, h.flavor]

/-- The storages of orders that differ in logging are one directory at two times. -/
theorem storage (h : order.DifferInLogging other) (tree : FileTree) (clock clock' : ℕ) :
    other.storage tree clock' = (order.storage tree clock).atTime clock' := by
  simp only [Order.storage, Directory.below, Directory.atTime, h.dir, h.output]

/-- Directories that differ in logs have trees that do. -/
theorem agreesBut (h : order.DifferInLogging other) {tree : FileTree} {clock clock' : ℕ}
    {directory directory' : Directory}
    (hdirectory : Directory.DifferInLogs order.options other.options (order.storage tree clock)
      clock' directory directory') :
    directory.tree.AgreesBut (fun location =>
      (order.options.log = true ∧ (order.storage directory.tree clock).IsLog location) ∨
      (other.options.log = true ∧ (other.storage directory'.tree clock').IsLog location))
      directory'.tree := by
  have hkept : order.storage directory.tree clock = directory := by
    rw [← onTree_storage order tree, ← hdirectory.kept]
  have hkept' : other.storage directory'.tree clock' = directory' := by
    rw [← onTree_storage other tree, h.storage tree clock, ← hdirectory.kept']
  rw [hkept, hkept']
  exact hdirectory.tree

theorem unencodable? (h : order.DifferInLogging other) :
    order.unencodable? = other.unencodable? := by
  rw [Order.unencodable?, Order.unencodable?, h.options.dirValue?]

/-- **Runs** of loggable orders that differ in logging differ in logs. -/
theorem run (h : order.DifferInLogging other) (hloggable : order.options.Loggable)
    (tree : FileTree) (clock clock' duration duration' : ℕ) :
    DifferInLogs order other clock clock' (order.run tree clock duration)
      (other.run tree clock' duration') := by
  cases hoff : order.options.disabled with
  | true =>
    rw [Order.run, Order.run, if_pos hoff, if_pos (h.options.disabled ▸ hoff), h.blank]
    exact ⟨rfl, fun _ => rfl, .refl _ _⟩
  | false =>
    have hon : ¬ order.options.disabled = true := by rw [hoff]; exact Bool.false_ne_true
    rw [Order.run, Order.run, if_neg hon, if_neg (h.options.disabled ▸ hon), h.blank, ← h.flavor,
      ← h.unencodable?]
    cases order.unencodable? with
    | some fault => exact ⟨rfl, fun _ => rfl, .refl _ _⟩
    | none =>
    have hpart := Directory.partOverLogs hloggable (h.options.loggable hloggable)
      (order.storage tree clock) clock'
    have hstart := Session.sameOutcome_start hpart h.options.disabled order.flavor
      ⟨(order.onTree_storage tree tree clock).symm, h.storage tree clock clock'⟩
    dsimp only
    generalize Session.start (.new order.flavor order.options (order.storage tree clock)) =
      started at hstart ⊢
    generalize Session.start (.new order.flavor other.options (other.storage tree clock')) =
      started' at hstart ⊢
    cases hstart with
    | error fault hfailed =>
      -- nothing is written before the rounds, and a failure to look at the listings is told
      cases fault with
      | os failure =>
        refine ⟨?_, fun hverbose => ?_, .refl _ _⟩
        · simp only [Except.map, Generation.showing,
            hfailed.serious h.options [unreadable failure]]
        · simp only [Except.map, Generation.showing,
            hfailed.shown h.options hverbose [unreadable failure]]
      | _ => exact ⟨rfl, fun _ => rfl, .refl _ _⟩
    | @ok session session' _ hstarted =>
      have hrounds := Session.sameOutcome_rounds hpart h.options.disabled h.source tree duration
        duration' hstarted.2 hstarted.1
      dsimp only
      generalize order.rounds tree duration session = done at hrounds ⊢
      generalize other.rounds tree duration' session' = done' at hrounds ⊢
      cases hrounds with
      | error fault hfailed => exact ⟨rfl, fun _ => rfl, h.agreesBut hfailed.bench.storage.1⟩
      | ok reports hdone =>
        refine ⟨?_, fun hverbose => ?_, h.agreesBut hdone.bench.storage.1⟩
        · simp only [Except.map, Generation.showing, hdone.serious h.options []]
        · simp only [Except.map, Generation.showing, hdone.shown h.options hverbose []]

/-- **The sessions** of loggable generations that differ in logging differ in logs, from their
start on. -/
theorem session (h : order.DifferInLogging other) (hloggable : order.options.Loggable)
    (tree : FileTree) (clock clock' duration duration' : ℕ) :
    let Differ := Session.DifferInLogs
      (Directory.DifferInLogs order.options other.options (order.storage tree clock) clock')
    SameOutcome (fun session session' => Differ session session' ∧
        SameOutcome Differ Differ (order.rounds tree duration session)
          (other.rounds tree duration' session'))
      Differ (Session.start (.new order.flavor order.options ⟨order.storage tree clock, []⟩))
      (Session.start (.new other.flavor other.options ⟨other.storage tree clock', []⟩)) := by
  intro Differ
  have hpart := (Directory.partOverLogs hloggable (h.options.loggable hloggable)
    (order.storage tree clock) clock').watched
  have hstart := Session.sameOutcome_start hpart h.options.disabled order.flavor
    (Watched.differInLogs_nil
      ⟨(order.onTree_storage tree tree clock).symm, h.storage tree clock clock'⟩)
  rw [← h.flavor]
  refine hstart.mono (fun session session' hstarted => ⟨hstarted.1.differInLogs h.options, ?_⟩)
    fun _ _ hfailed => hfailed.differInLogs h.options
  exact (Session.sameOutcome_rounds hpart h.options.disabled h.source tree duration duration'
    hstarted.2 hstarted.1).mono (fun _ _ hdone => hdone.differInLogs h.options)
    fun _ _ hfailed => hfailed.differInLogs h.options

end Order.DifferInLogging

/-! ### Everything together -/

variable {options other : Options}

section Unloggable

open Source

end Unloggable

end ProviderRegistry
