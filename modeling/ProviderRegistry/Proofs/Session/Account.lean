import ProviderRegistry.Proofs.Session.Interrupted

/-!
# Every declaration is accounted for

A round decides about every declaration that is to be registered, and about every target of those
that the flavor accepts. Its report **accounts** for them when it lists one verdict for each
decision and nothing else, in the order of the declarations (`Report.Accounts`). A rejection
carries the name and the place of the declaration that it rejects (`Diagnostic.Rejects`).

The errors that the user sees tell the same: over the rounds of a session they are what the reports
list as rejected and as failed, in this order (`play_accounts`).
-/

namespace ProviderRegistry

/-! ### Accounts -/

/-- A diagnostic **rejects** a declaration over an objection when it is an error that says so, and
carries the name and the place of the declaration. -/
structure Diagnostic.Rejects (diagnostic : Diagnostic) (d : Declaration) (objection : Objection) :
    Prop where
  severity : diagnostic.severity = .error
  declaration : d.name = some diagnostic.declaration
  message : diagnostic.message = s!"{simpleName diagnostic.declaration} {objection.text}"
  sourceFile : diagnostic.sourceFile = d.sourceFile
  line : diagnostic.line = d.line

/-- A flavor **decides** on a verdict about a declaration under a target: to register its name
there, or to reject it. -/
inductive Flavor.Decides (flavor : Flavor) (d : Declaration) : Option String → Verdict → Prop
  | registered {target name : String} (h : flavor.targetObjection? d (some target) = none)
    (hname : d.name = some name) (hne : name ≠ "") :
    Decides flavor d (some target) (.registered target name)
  | rejected {target : Option String} {objection : Objection} {diagnostic : Diagnostic}
    (h : flavor.targetObjection? d target = some objection) (hd : diagnostic.Rejects d objection) :
    Decides flavor d target (.rejected diagnostic)

/-- Some verdicts **account** for a declaration: one rejection if something speaks against it, else
one verdict for each of its targets. -/
inductive Flavor.Accounts (flavor : Flavor) (d : Declaration) : List Verdict → Prop
  | rejected {objection : Objection} {diagnostic : Diagnostic}
    (h : flavor.objection? d = some objection) (hd : diagnostic.Rejects d objection) :
    Accounts flavor d [.rejected diagnostic]
  | decided {verdicts : List Verdict} (h : flavor.objection? d = none)
    (hverdicts : List.Forall₂ (flavor.Decides d) (flavor.targets d) verdicts) :
    Accounts flavor d verdicts

/-- A report **accounts** for some declarations when what it lists as registered and as rejected
are the verdicts that account for them one after the other. -/
def Report.Accounts (report : Report) (flavor : Flavor) (annotated : List Declaration) : Prop :=
  ∃ verdicts : List (List Verdict), List.Forall₂ flavor.Accounts annotated verdicts ∧
    report.registered = verdicts.flatten.filterMap Verdict.registration? ∧
    report.rejected = verdicts.flatten.filterMap Verdict.rejection?

/-! ### Batches without a fault are accounted for -/

variable {flavor : Flavor} {d : Declaration}

theorem Objection.rejects_diagnostic (objection : Objection) (h : d.name ≠ none) :
    (objection.diagnostic d).Rejects d objection := by
  obtain ⟨name, hname⟩ := Option.ne_none_iff_exists'.mp h
  refine ⟨rfl, ?_, rfl, rfl, rfl⟩
  rw [hname, diagnostic, hname, Option.getD_some]

namespace Flavor

theorem decides_verdictUnder {target : Option String} (h : flavor.faultUnder? d target = none) :
    flavor.Decides d target (flavor.verdictUnder d target) := by
  obtain ⟨hnamed, hgiven⟩ := faultUnder?_eq_none_iff.mp h
  rw [verdictUnder]
  cases hobjection : flavor.targetObjection? d target with
  | some objection => exact .rejected hobjection (objection.rejects_diagnostic hnamed)
  | none =>
    obtain ⟨htarget, hempty⟩ := hgiven hobjection
    obtain ⟨target, rfl⟩ := Option.ne_none_iff_exists'.mp htarget
    obtain ⟨name, hname⟩ := Option.ne_none_iff_exists'.mp hnamed
    rw [hname] at hempty ⊢
    exact .registered hobjection hname fun heq => hempty (congrArg some heq)

theorem accounts_verdicts (h : flavor.fault? d = none) :
    flavor.Accounts d (flavor.verdicts d) := by
  rw [fault?] at h
  rw [verdicts]
  cases hobjection : flavor.objection? d with
  | some objection =>
    have hnamed : d.name ≠ none := by simpa [hobjection] using h
    exact .rejected hobjection (objection.rejects_diagnostic hnamed)
  | none =>
    rw [hobjection] at h
    refine .decided hobjection (List.forall₂_map_right_iff.mpr (List.forall₂_same.mpr ?_))
    exact fun target htarget =>
      decides_verdictUnder (List.findSome?_eq_none_iff.mp h target htarget)

/-- What is rejected is an error. -/
theorem severity_of_rejection {verdict : Verdict} {diagnostic : Diagnostic}
    (h : verdict ∈ flavor.verdicts d) (hrejection : verdict.rejection? = some diagnostic) :
    diagnostic.severity = .error := by
  rw [verdicts] at h
  cases hobjection : flavor.objection? d with
  | some objection =>
    rw [hobjection] at h
    obtain rfl := List.mem_singleton.mp h
    obtain rfl := Option.some.inj hrejection
    rfl
  | none =>
    rw [hobjection] at h
    obtain ⟨target, -, rfl⟩ := List.mem_map.mp h
    rw [verdictUnder] at hrejection
    split at hrejection
    · obtain rfl := Option.some.inj hrejection
      rfl
    · cases hrejection

end Flavor

namespace Batch

variable {batch : Batch}

theorem accounts_report (h : batch.fault? flavor = none) (number : ℕ) :
    (batch.report flavor number).Accounts flavor (batch.marked flavor) := by
  refine ⟨(batch.marked flavor).map flavor.verdicts, ?_, rfl, rfl⟩
  refine List.forall₂_map_right_iff.mpr (List.forall₂_same.mpr fun d hd => ?_)
  exact Flavor.accounts_verdicts ((Batch.fault?_eq_none_iff.mp h).2 d hd)

/-- All that a batch has rejected are errors. -/
theorem errors_rejected (flavor : Flavor) (number : ℕ) (batch : Batch) :
    (batch.report flavor number).rejected.errors = (batch.report flavor number).rejected := by
  refine List.filter_eq_self.mpr fun diagnostic hmem => decide_eq_true ?_
  obtain ⟨verdict, hverdict, hrejection⟩ := List.mem_filterMap.mp hmem
  obtain ⟨d, -, hverdict⟩ := List.mem_flatMap.mp hverdict
  exact Flavor.severity_of_rejection hverdict hrejection

end Batch

/-! ### Errors -/

theorem Diagnostics.errors_append (ds more : Diagnostics) :
    Diagnostics.errors (ds ++ more) = ds.errors ++ more.errors :=
  List.filter_append ds more

/-- A note is no error. -/
theorem Journal.errors_noteSeen (options : Options) (place : Place) (text : RawText) :
    (noteSeen options place text).errors = [] := by
  rw [noteSeen]
  split <;> rfl

/-- Nor is a warning. -/
theorem Journal.errors_warningSeen (place : Place) (text : RawText) :
    (warningSeen place text).errors = [] := by
  rw [warningSeen]
  split <;> rfl

/-- The errors that some events let the user see are among the diagnostics that they carry. -/
theorem Journal.errors_flatMap_seen (options : Options) (events : List Event) :
    Diagnostics.errors (events.flatMap (seen options)) =
      Diagnostics.errors (events.filterMap Event.diagnosis?) := by
  induction events with
  | nil => rfl
  | cons event events ih =>
    rw [List.flatMap_cons, Diagnostics.errors_append, ih]
    cases event with
    | note place text => exact congrArg (· ++ _) (errors_noteSeen options place text)
    | warning place text => exact congrArg (· ++ _) (errors_warningSeen place text)
    | diagnosed diagnostic =>
      exact (Diagnostics.errors_append [diagnostic] _).symm

/-- A journal opens without errors. -/
theorem Journal.errors_start (options : Options) : (start options).diagnostics.errors = [] := by
  have hwarnings : Diagnostics.errors (options.warnings.flatMap (warningSeen .both)) = [] := by
    induction options.warnings with
    | nil => rfl
    | cons warning warnings ih =>
      rw [List.flatMap_cons, Diagnostics.errors_append, errors_warningSeen, ih]
      rfl
  exact hwarnings

namespace Session

variable {clock : ℕ → ℕ} {options : Options}

/-- The errors that a session shows are among the diagnostics that it told. -/
theorem errors_journal {σ : Type} (hon : options.disabled = false) (bench : Workbench σ)
    (number : ℕ) (finished : Bool) :
    (⟨flavor, options, bench, number, finished⟩ : Session σ).journal.diagnostics.errors =
      Diagnostics.errors (bench.told.filterMap Event.diagnosis?) := by
  have hseen := diagnostics_recordAll_append options [] bench.told
  rw [List.nil_append, Journal.recordAll_nil] at hseen
  rw [journal_of_enabled hon, hseen, Diagnostics.errors_append, Journal.errors_start,
    List.nil_append, Journal.errors_flatMap_seen]

/-- The errors that a session shows after it told more. -/
theorem errors_journal_append {σ : Type} (hon : options.disabled = false)
    (registry after : Registry) (storage left : σ) (told more : List Event) (number next : ℕ)
    (finished ended : Bool) :
    (⟨flavor, options, ⟨after, left, told ++ more⟩, next, ended⟩ :
        Session σ).journal.diagnostics.errors =
      (⟨flavor, options, ⟨registry, storage, told⟩, number, finished⟩ :
          Session σ).journal.diagnostics.errors ++
        Diagnostics.errors (more.filterMap Event.diagnosis?) := by
  rw [errors_journal hon, errors_journal hon, List.filterMap_append, Diagnostics.errors_append]

/-- What a flush adds to the errors are the failures that it reports. -/
theorem errors_of_flush {settled ended : Session Memory} {report last : Report}
    (h : UpToDate settled ended report last ∨ Emptied settled ended report last ∨
      Written settled ended report last) :
    ended.journal.diagnostics.errors = settled.journal.diagnostics.errors ++ last.failures ∧
      last.registered = report.registered ∧ last.rejected = report.rejected := by
  rcases h with h | h | h
  · rw [h.diagnostics, h.report]
    exact ⟨(List.append_nil _).symm, rfl, rfl⟩
  · rw [h.diagnostics, h.report, Diagnostics.errors_append]
    refine ⟨congrArg _ ?_, rfl, rfl⟩
    split <;> rfl
  · have hfailures : last.failures.errors = last.failures := by
      rw [h.report]
      refine List.filter_eq_self.mpr fun diagnostic hmem => decide_eq_true ?_
      obtain ⟨entry, -, rfl⟩ := List.mem_map.mp hmem
      rfl
    rw [h.diagnostics, Diagnostics.errors_append, hfailures, h.report]
    exact ⟨rfl, rfl, rfl⟩

/-- **A round that comes to an end** accounts for its batch, and adds to the errors what it
rejected and what it failed to write. -/
theorem process_accounts {session after : Session Memory} {batch : Batch} {report : Report}
    (hopen : session.finished = false) (hon : session.options.disabled = false)
    (h : process clock batch session = .ok report after) :
    report.Accounts session.flavor (batch.marked session.flavor) ∧
      after.journal.diagnostics.errors =
        session.journal.diagnostics.errors ++ (report.rejected ++ report.failures) ∧
      after.flavor = session.flavor ∧ after.options = session.options := by
  obtain ⟨flavor, options, ⟨registry, memory, told⟩, number, finished⟩ := session
  subst hopen
  cases hfault : batch.fault? flavor with
  | some fault =>
    obtain ⟨part, left, more, -, -, hrun⟩ :=
      @process_of_fault?_eq_some clock _ _ _ _ memory _ _ _ _
      hon memory.offers hfault registry told number
    rw [hrun] at h
    cases h
  | none =>
    obtain ⟨more, hrun, hmore⟩ := @process_of_fault?_eq_none Memory _ clock flavor options memory
      memory.names memory.listing? registry told number batch hon memory.offers hfault
    have hreport := Batch.accounts_report hfault (number + 1)
    have hrejected := Batch.errors_rejected flavor (number + 1) batch
    rw [h] at hrun
    cases hfinal : batch.final with
    | false =>
      rw [hfinal, if_neg Bool.false_ne_true] at hrun
      obtain ⟨rfl, rfl⟩ := EStateM.Result.ok.inj hrun
      refine ⟨hreport, ?_, rfl, rfl⟩
      rw [errors_journal_append hon registry _ memory, hmore]
      exact congrArg _ (hrejected.trans (List.append_nil _).symm)
    | true =>
      have hlast : { batch.report flavor (number + 1) with final := true } =
          batch.report flavor (number + 1) := by
        rw [← hfinal]
        rfl
      obtain ⟨last, left, told', hflush, houtcome⟩ := @flush_outcome flavor options number _ hon
        (batch.unflushed_report flavor (number + 1)) (registry.turn memory.listing?
          (batch.turn flavor)) memory (told ++ more)
      rw [hlast] at hflush
      rw [hfinal, if_pos rfl, hflush] at hrun
      obtain ⟨rfl, rfl⟩ := EStateM.Result.ok.inj hrun
      obtain ⟨herrors, hregistered, hrejections⟩ := errors_of_flush houtcome
      refine ⟨?_, ?_, rfl, rfl⟩
      · obtain ⟨verdicts, hverdicts, hlisted⟩ := hreport
        exact ⟨verdicts, hverdicts, by rwa [hregistered, hrejections]⟩
      · rw [errors_journal_append hon registry _ memory, hmore] at herrors
        refine Eq.trans ?_ (herrors.trans ?_)
        · rfl
        · rw [List.append_assoc, hrejections]
          exact congrArg (fun rejected => _ ++ (rejected ++ _)) hrejected

/-! ### Many rounds -/

theorem length_play_le {σ : Type} [Storage σ] (session : Session σ) (batches : List Batch) :
    (play clock batches session).1.length ≤ batches.length := by
  induction batches generalizing session with
  | nil => exact Nat.le_refl 0
  | cons batch batches ih =>
    cases h : process clock batch session with
    | ok report next =>
      rw [play_cons_of_ok h]
      exact Nat.succ_le_succ (ih next)
    | error fault next =>
      rw [play_cons_of_error h]
      exact Nat.le_succ_of_le (ih next)

/-- Where all rounds come to an end, the first does and then all others. -/
theorem process_of_play_cons {σ : Type} [Storage σ] {session : Session σ} {batch : Batch}
    {batches : List Batch}
    (h : (play clock (batch :: batches) session).1.map Prod.fst = batch :: batches) :
    ∃ report next, process clock batch session = .ok report next ∧
      (play clock batches next).1.map Prod.fst = batches := by
  cases hrun : process clock batch session with
  | ok report next =>
    rw [play_cons_of_ok hrun] at h
    exact ⟨report, next, rfl, (List.cons.inj h).2⟩
  | error fault next =>
    -- a round less than there are batches
    have hlength := congrArg List.length h
    rw [play_cons_of_error hrun, List.length_map, List.length_cons] at hlength
    have := @length_play_le clock σ _ next batches
    omega

/-- No round changes the options of a session. -/
theorem options_play {σ : Type} [Storage σ] (session : Session σ) (batches : List Batch) :
    (play clock batches session).2.options = session.options := by
  induction batches generalizing session with
  | nil => rfl
  | cons batch batches ih =>
    have hoptions := @options_attempt σ _ session clock batch
    cases h : process clock batch session with
    | ok report next =>
      rw [attempt_of_ok h] at hoptions
      rw [play_cons_of_ok h, ih next, hoptions]
    | error fault next =>
      rw [attempt_of_error h] at hoptions
      rw [play_cons_of_error h, ih next, hoptions]

/-- Rounds of a session that goes on account for their batches, and the errors grow by what they
report. -/
theorem play_accounts_of_enabled {session : Session Memory} (hopen : session.finished = false)
    (hon : session.options.disabled = false) {batches : List Batch}
    (h : (play clock batches session).1.map Prod.fst = batches) :
    (∀ round ∈ (play clock batches session).1,
      round.2.Accounts session.flavor (round.1.marked session.flavor)) ∧
    (play clock batches session).2.journal.diagnostics.errors =
      session.journal.diagnostics.errors ++
        (play clock batches session).1.flatMap fun round =>
          round.2.rejected ++ round.2.failures := by
  induction batches generalizing session with
  | nil => exact ⟨fun _ hround => absurd hround List.not_mem_nil, (List.append_nil _).symm⟩
  | cons batch batches ih =>
    obtain ⟨report, next, hrun, hrest⟩ := process_of_play_cons h
    obtain ⟨haccounts, herrors, hflavor, hoptions⟩ := process_accounts hopen hon hrun
    have hnext := @process_of_open Memory _ session clock hopen batch
    rw [hrun] at hnext
    rw [play_cons_of_ok hrun]
    cases hfinal : batch.final with
    | true =>
      -- after the last round there is none that comes to an end
      rw [play_of_finished (hnext.2.2.trans hfinal)] at hrest ⊢
      refine ⟨List.forall_mem_singleton.mpr haccounts, ?_⟩
      rw [herrors, List.flatMap_singleton]
    | false =>
      obtain ⟨hall, hall'⟩ := ih (hnext.2.2.trans hfinal) (hoptions ▸ hon) hrest
      rw [hflavor] at hall
      refine ⟨List.forall_mem_cons.mpr ⟨haccounts, hall⟩, ?_⟩
      rw [hall', herrors, List.flatMap_cons, List.append_assoc]

/-- **Every declaration is accounted for.** Where all rounds of a session come to an end, each of
them accounts for the declarations of its batch that are to be registered, and the errors that the
user sees are what the rounds report as rejected and as failed, one round after the other. A
session that is turned off has nothing to report and shows nothing. -/
theorem play_accounts (flavor : Flavor) (options : Options) (memory : Memory) (clock : ℕ → ℕ)
    (batches : List Batch) :
    ∃ started, start (new flavor options memory) = .ok () started ∧
      ((play clock batches started).1.map Prod.fst = batches →
        (∀ round ∈ (play clock batches started).1,
          if options.disabled then
            round.2.registered = [] ∧ round.2.rejected = [] ∧ round.2.failures = []
          else round.2.Accounts flavor (round.1.marked flavor)) ∧
        (play clock batches started).2.journal.diagnostics.errors =
          (play clock batches started).1.flatMap
            fun round => round.2.rejected ++ round.2.failures) := by
  cases hoff : options.disabled with
  | true =>
    refine ⟨_, start_new_of_disabled flavor hoff memory, fun _ => ?_⟩
    have hoptions := @options_play clock Memory _ (new flavor options memory) batches
    obtain ⟨next, hplay, -, -⟩ := play_of_disabled clock flavor hoff (.new memory) 0 batches
    rw [← new] at hplay
    rw [hplay] at hoptions ⊢
    have hsilent : ∀ round ∈ Batch.idle 0 batches,
        round.2.registered = [] ∧ round.2.rejected = [] ∧ round.2.failures = [] := by
      intro round hround
      obtain ⟨k, hreport⟩ := Batch.exists_eq_of_mem_idle hround
      rw [hreport]
      exact ⟨rfl, rfl, rfl⟩
    refine ⟨hsilent, ?_⟩
    have hnext : next.options.disabled = true := hoptions ▸ hoff
    rw [journal, if_pos hnext, eq_comm]
    refine List.flatMap_eq_nil_iff.mpr fun round hround => ?_
    rw [(hsilent round hround).2.1, (hsilent round hround).2.2, List.append_nil]
  | false =>
    obtain ⟨told, hstart, htold⟩ := start_new flavor hoff memory.offers
    refine ⟨_, hstart, fun hall => ?_⟩
    obtain ⟨haccounts, herrors⟩ := play_accounts_of_enabled rfl hoff hall
    refine ⟨haccounts, herrors.trans ?_⟩
    rw [errors_journal hoff, htold]
    rfl

/-- A round over a class that is abstract and one that inherits from one of its two targets alone,
and a last round whose writing is refused: two rejections and a failure are the errors. -/
theorem play_accounts_of_refused_write :
    let memory : Memory := { resources := [], refusedWrites := ["a.Port"] }
    let shape : Declaration :=
      { name := some "a.Shape", isAbstract := true, sourceFile := "a.py", line := 3
        markers := [("provider_for", [some "a.Port"])] }
    let adapter : Declaration :=
      { name := some "a.Adapter", supertypes := ["a.Port"], sourceFile := "a.py", line := 9
        markers := [("provider_for", [some "a.Other", some "a.Port"])] }
    let batches : List Batch := [⟨[shape, adapter], none, false⟩, .finish]
    ∃ started, start (new .service ⟨toolName, []⟩ memory) = .ok () started ∧
      (play (fun _ => 0) batches started).1.map Prod.fst = batches ∧
      (∀ round ∈ (play (fun _ => 0) batches started).1,
        round.2.Accounts .service (round.1.marked .service)) ∧
      (play (fun _ => 0) batches started).2.journal.diagnostics.errors =
        [{ severity := .error, message := "Shape is an abstract class", declaration := "a.Shape"
           sourceFile := "a.py", line := 3 },
         { severity := .error, message := "Adapter does not implement a.Other"
           declaration := "a.Adapter", sourceFile := "a.py", line := 9 },
         { severity := .error, message := "Could not write 'a.Port'",
           declaration := "a.Port" }] := by
  intro memory shape adapter batches
  obtain ⟨started, hstart, haccounts⟩ :=
    play_accounts .service ⟨toolName, []⟩ memory (fun _ => 0) batches
  refine ⟨started, hstart, ?_⟩
  cases hstart
  obtain ⟨hrounds, herrors⟩ := haccounts rfl
  refine ⟨rfl, hrounds, ?_⟩
  rw [herrors]
  decide +kernel

end Session

end ProviderRegistry
