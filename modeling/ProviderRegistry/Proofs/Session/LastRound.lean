import ProviderRegistry.Proofs.Session.Flush
import ProviderRegistry.Proofs.Session.Play
import ProviderRegistry.Proofs.Session.Unflushed

/-!
# The last round of a session

The last round strips and registers like every other, and then flushes. Whatever the registry holds
by then and whatever the memory refuses, exactly one of three things happens to the memory
(`round_final_outcome`): it stays as it is (`UpToDate`), its listings are deleted (`Emptied`), or
the entries that list something are written, each on its own (`Written`). The flush itself never
fails: the last round comes to an end whenever the same round would without being the last.
-/

namespace ProviderRegistry

namespace Work

variable {σ : Type} {flavor : Flavor} [Storage σ]

/-- Whether a round is the last changes nothing before the flush. -/
theorem reconcile_final (number duration : ℕ) (declarations annotated : List Declaration)
    (bench : Workbench σ) :
    match reconcile flavor { number } declarations annotated duration bench with
    | .error fault failed =>
      reconcile flavor { number, final := true } declarations annotated duration bench =
        .error fault failed
    | .ok report settled =>
      reconcile flavor { number, final := true } declarations annotated duration bench =
          .ok { report with final := true } settled ∧
        report.final = false ∧ report.Unflushed := by
  -- the report is put together after everything that can fail
  simp only [reconcile, tell, modify_apply, bind_apply]
  cases strip declarations { bench with
      told := bench.told ++ [.logged s!"Starting round with {declarations.length} elements"] } with
  | error fault failed => rfl
  | ok value stripped =>
    simp only
    cases annotated.mapM (register flavor) stripped with
    | error fault failed => rfl
    | ok verdicts registered => exact ⟨rfl, rfl, rfl, rfl, rfl, rfl⟩

/-- A round that fails before the flush fails the same way as the last one; any other leaves the
flush to be done, with nothing reported of it so far. -/
theorem round_final (options : Options) (number duration : ℕ)
    (declarations annotated : List Declaration) (bench : Workbench σ) :
    match round flavor options { number } declarations annotated duration bench with
    | .error fault failed =>
      round flavor options { number, final := true } declarations annotated duration bench =
        .error fault failed
    | .ok report settled =>
      round flavor options { number, final := true } declarations annotated duration bench =
          flush options { report with final := true } settled ∧
        settled.storage = bench.storage ∧ report.Unflushed := by
  have hfinal := @reconcile_final σ flavor _ number duration declarations annotated bench
  have hstorage := @storage_reconcile σ flavor _ { number } declarations annotated duration bench
  cases hrun : reconcile flavor { number } declarations annotated duration bench with
  | error fault failed =>
    rw [hrun] at hfinal
    rw [round, bind_of_error hrun, round, bind_of_error hfinal]
  | ok report settled =>
    rw [hrun] at hfinal hstorage
    obtain ⟨hlast, hnot, hreport⟩ := hfinal
    rw [round, bind_of_ok hrun, hnot, if_neg Bool.false_ne_true, round, bind_of_ok hlast,
      if_pos rfl]
    exact ⟨rfl, hstorage, hreport⟩

end Work

namespace Session

/-! ### What becomes of the memory -/

/-- Nothing changed: the memory and the diagnostics stay as they are. -/
structure UpToDate (settled ended : Session Memory) (report last : Report) : Prop where
  unmodified : settled.bench.registry.isModified = false
  report : last = { report with
    final := true, modified := false, written := [], deleted := false, failures := [] }
  storage : ended.bench.storage = settled.bench.storage
  diagnostics : ended.journal.diagnostics = settled.journal.diagnostics

/-- Nothing is left to list: the listings are deleted, and nothing is written and no log kept. A
deletion that is refused becomes a warning. -/
structure Emptied (settled ended : Session Memory) (report last : Report) : Prop where
  modified : settled.bench.registry.isModified = true
  unlisted : ∀ entry ∈ settled.bench.registry.entries, ∀ p, p ∉ entry.providers
  report : last = { report with
    final := true, modified := true, written := [],
    deleted := !settled.bench.storage.refusesDelete, failures := [] }
  storage : ended.bench.storage = { settled.bench.storage with
    deleteCalls := settled.bench.storage.deleteCalls + 1
    resources :=
      if settled.bench.storage.refusesDelete then settled.bench.storage.resources
      else settled.bench.storage.resources.filter fun resource => Listing.isLogName resource.1 }
  diagnostics : ended.journal.diagnostics = settled.journal.diagnostics ++
    if settled.bench.storage.refusesDelete then [Memory.deletionRefusal] else []

/-- The entries that list something are written in their order, each unless the memory refuses it,
and the log is kept unless it is empty. A writing that is refused becomes a failure, and nothing
else comes of it. -/
structure Written (settled ended : Session Memory) (report last : Report) : Prop where
  modified : settled.bench.registry.isModified = true
  listed : ∃ entry ∈ settled.bench.registry.entries, ∃ p, p ∈ entry.providers
  report : last = { report with
    final := true, modified := true, deleted := false,
    written := (settled.bench.storage.accepted settled.bench.registry.listed).map Entry.name
    failures := (settled.bench.storage.refused settled.bench.registry.listed).map Memory.refusal }
  storage : ended.bench.storage = { settled.bench.storage with
    resources := ended.bench.storage.resources
    written := settled.bench.storage.written ++ last.written
    logs := settled.bench.storage.logs ++
      if ended.journal.logText.isEmpty then [] else [ended.journal.logText] }
  texts : ∀ entry ∈ settled.bench.registry.listed,
    entry.name ∉ settled.bench.storage.refusedWrites →
    ended.bench.storage.listing? entry.name =
      some (Listing.header settled.bench.storage.tool ++ entry.render)
  untouched : ∀ name ∉ last.written,
    ended.bench.storage.listing? name = settled.bench.storage.listing? name
  order : ended.bench.storage.resources.map Prod.fst =
    settled.bench.storage.resources.map Prod.fst ++
      last.written.filter fun name => name ∉ settled.bench.storage.resources.map Prod.fst
  diagnostics : ended.journal.diagnostics = settled.journal.diagnostics ++ last.failures

/-! ### The flush brings it about -/

section Flush

variable {flavor : Flavor} {options : Options} {registry : Registry} {memory : Memory}
  {told : List Event} {number : ℕ} {report : Report}

/-- The journal of a session that is on holds all that was told. -/
theorem journal_of_enabled {σ : Type} (hon : options.disabled = false) (bench : Workbench σ)
    (number : ℕ) (finished : Bool) :
    (⟨flavor, options, bench, number, finished⟩ : Session σ).journal =
      (Journal.start options).recordAll bench.told := by
  rw [journal, hon, if_neg Bool.false_ne_true]

/-- The diagnostics come in the order in which they were told. -/
theorem diagnostics_recordAll_append (options : Options) (told more : List Event) :
    ((Journal.start options).recordAll (told ++ more)).diagnostics =
      ((Journal.start options).recordAll told).diagnostics ++
        more.flatMap (Journal.seen options) := by
  have hoptions : ((Journal.start options).recordAll told).options = options := by
    rw [Journal.recordAll_eq, Journal.start]
  rw [Journal.recordAll_append, Journal.recordAll_eq ((Journal.start options).recordAll told) more,
    hoptions]

/-- A last round without changes ends up to date. -/
theorem upToDate_of_unmodified (hmodified : registry.isModified = false)
    (hreport : report.Unflushed) :
    ∃ last memory' told',
      Work.flush options { report with final := true } ⟨registry, memory, told⟩ =
        .ok last ⟨registry, memory', told'⟩ ∧
      UpToDate ⟨flavor, options, ⟨registry, memory, told⟩, number, false⟩
        ⟨flavor, options, ⟨registry, memory', told'⟩, number, true⟩ report last := by
  refine ⟨_, memory, told, Work.flush_of_unmodified hmodified, hmodified, ?_, rfl, rfl⟩
  simp only [hreport.modified, hreport.written, hreport.deleted, hreport.failures]

/-- A last round that leaves nothing to list ends emptied. -/
theorem emptied_of_listed_eq_nil (hon : options.disabled = false)
    (hmodified : registry.isModified = true) (hlisted : registry.listed = [])
    (hreport : report.Unflushed) :
    ∃ last memory' told',
      Work.flush options { report with final := true } ⟨registry, memory, told⟩ =
        .ok last ⟨registry, memory', told'⟩ ∧
      Emptied ⟨flavor, options, ⟨registry, memory, told⟩, number, false⟩
        ⟨flavor, options, ⟨registry, memory', told'⟩, number, true⟩ report last := by
  refine ⟨_, _, _, Work.flush_of_empty hmodified hlisted, hmodified, ?_, ?_, ?_, ?_⟩
  · intro entry hentry p hp
    have hmem : entry ∈ registry.listed := Registry.mem_listed_iff.mpr ⟨hentry, p, hp⟩
    rw [hlisted] at hmem
    exact List.not_mem_nil hmem
  · simp only [hreport.written, hreport.failures]
  · simp only [Memory.delete]
    cases memory.refusesDelete <;> rfl
  · rw [journal_of_enabled hon, journal_of_enabled hon, List.append_assoc,
      diagnostics_recordAll_append]
    cases memory.refusesDelete <;> rfl

/-- A last round that leaves something to list ends written. -/
theorem written_of_listed_ne_nil (hon : options.disabled = false)
    (hmodified : registry.isModified = true) (hlisted : registry.listed ≠ [])
    (hreport : report.Unflushed) :
    ∃ last memory' told',
      Work.flush options { report with final := true } ⟨registry, memory, told⟩ =
        .ok last ⟨registry, memory', told'⟩ ∧
      Written ⟨flavor, options, ⟨registry, memory, told⟩, number, false⟩
        ⟨flavor, options, ⟨registry, memory', told'⟩, number, true⟩ report last := by
  have hdistinct := memory.nodup_names_accepted registry
  refine ⟨_, _, _, Work.flush_of_listed hmodified hlisted, hmodified, ?_, ?_, ?_, ?_, ?_, ?_, ?_⟩
  · obtain ⟨entry, hentry⟩ := List.exists_mem_of_ne_nil _ hlisted
    exact ⟨entry, Registry.mem_listed_iff.mp hentry⟩
  · simp only [hreport.deleted]
  · simp only [journal_of_enabled hon, Memory.keepLog_eq]
    rfl
  · intro entry hentry haccepted
    have hmem : entry ∈ memory.accepted registry.listed :=
      Memory.mem_accepted_iff.mpr ⟨hentry, haccepted⟩
    rw [Memory.keepLog_eq]
    exact (Memory.keeps_putAll hdistinct hmem).lookup
  · intro name hname
    rw [Memory.keepLog_eq]
    exact Memory.lookup_putAll_of_notMem hname
  · rw [Memory.keepLog_eq]
    exact Memory.map_fst_putAll hdistinct
  · rw [journal_of_enabled hon, journal_of_enabled hon, List.append_assoc,
      diagnostics_recordAll_append, List.flatMap_append, Memory.refusals, List.flatMap_map]
    exact congrArg _ (List.flatMap_pure_eq_map Memory.refusal _)

/-- **The flush** of a session that is on comes to one of three outcomes. -/
theorem flush_outcome (hon : options.disabled = false) (hreport : report.Unflushed)
    (registry : Registry) (memory : Memory) (told : List Event) :
    ∃ last memory' told',
      Work.flush options { report with final := true } ⟨registry, memory, told⟩ =
        .ok last ⟨registry, memory', told'⟩ ∧
      let settled : Session Memory := ⟨flavor, options, ⟨registry, memory, told⟩, number, false⟩
      let ended : Session Memory := ⟨flavor, options, ⟨registry, memory', told'⟩, number, true⟩
      UpToDate settled ended report last ∨ Emptied settled ended report last ∨
        Written settled ended report last := by
  cases hmodified : registry.isModified with
  | false =>
    obtain ⟨last, memory', told', hflush, h⟩ := upToDate_of_unmodified hmodified hreport
    exact ⟨last, memory', told', hflush, Or.inl h⟩
  | true =>
    by_cases hlisted : registry.listed = []
    · obtain ⟨last, memory', told', hflush, h⟩ :=
        emptied_of_listed_eq_nil hon hmodified hlisted hreport
      exact ⟨last, memory', told', hflush, Or.inr (Or.inl h)⟩
    · obtain ⟨last, memory', told', hflush, h⟩ :=
        written_of_listed_ne_nil hon hmodified hlisted hreport
      exact ⟨last, memory', told', hflush, Or.inr (Or.inr h)⟩

end Flush

theorem UpToDate.not_emptied {settled ended : Session Memory} {report last : Report}
    (h : UpToDate settled ended report last) : ¬ Emptied settled ended report last :=
  fun h' => Bool.false_ne_true (h.unmodified.symm.trans h'.modified)

theorem UpToDate.not_written {settled ended : Session Memory} {report last : Report}
    (h : UpToDate settled ended report last) : ¬ Written settled ended report last :=
  fun h' => Bool.false_ne_true (h.unmodified.symm.trans h'.modified)

theorem Emptied.not_written {settled ended : Session Memory} {report last : Report}
    (h : Emptied settled ended report last) : ¬ Written settled ended report last := by
  intro h'
  obtain ⟨entry, hentry, p, hp⟩ := h'.listed
  exact h.unlisted entry hentry p hp

/-- **The last round** of a session that is on fails only where the same round would fail without
being the last. Otherwise it ends the session, keeps its registry, and does exactly one of three
things to the memory, which no round touches before its flush. -/
theorem round_final_outcome {session : Session Memory} (hon : session.options.disabled = false)
    (declarations : List Declaration) (annotated : Option (List Declaration)) (duration : ℕ) :
    match round declarations annotated false duration session with
    | .error fault failed =>
      round declarations annotated true duration session = .error fault failed
    | .ok report settled =>
      ∃ last ended, round declarations annotated true duration session = .ok last ended ∧
        settled.bench.storage = session.bench.storage ∧
        ended.bench.registry = settled.bench.registry ∧ ended.finished = true ∧
        (UpToDate settled ended report last ∨ Emptied settled ended report last ∨
          Written settled ended report last) ∧
        ¬ (UpToDate settled ended report last ∧ Emptied settled ended report last) ∧
        ¬ (UpToDate settled ended report last ∧ Written settled ended report last) ∧
        ¬ (Emptied settled ended report last ∧ Written settled ended report last) := by
  cases hopen : session.finished with
  | true => rw [round_of_finished hopen, round_of_finished hopen]
  | false =>
    rw [round_of_enabled hopen hon, round_of_enabled hopen hon]
    have hround := @Work.round_final Memory session.flavor _ session.options (session.rounds + 1)
      duration declarations
      (annotated.getD (declarations.filter (·.hasMarker session.flavor.marker.name))) session.bench
    cases hrun : Work.round session.flavor session.options { number := session.rounds + 1 }
        declarations
        (annotated.getD (declarations.filter (·.hasMarker session.flavor.marker.name))) duration
        session.bench with
    | error fault failed =>
      rw [hrun] at hround
      rw [hround]
    | ok report bench =>
      rw [hrun] at hround
      obtain ⟨hlast, hstorage, hreport⟩ := hround
      obtain ⟨registry, memory, told⟩ := bench
      obtain ⟨last, memory', told', hflush, houtcome⟩ :=
        @flush_outcome session.flavor _ (session.rounds + 1) _ hon hreport registry memory told
      rw [hlast, hflush]
      exact ⟨last, _, rfl, hstorage, rfl, rfl, houtcome, fun h => h.1.not_emptied h.2,
        fun h => h.1.not_written h.2, fun h => h.1.not_written h.2⟩

/-- A memory that refuses one of two listings is still given the other. -/
theorem round_final_outcome_of_refused_write :
    let session : Session Memory :=
      new .type ⟨toolName, []⟩ { resources := [], refusedWrites := ["b.Port"] }
    let adapter : Declaration :=
      { name := some "a.Adapter",
        markers := [("type_provider_for", [some "a.Port", some "b.Port"])] }
    session.options.disabled = false ∧ ∃ report settled last ended,
      round [adapter] none false 0 session = .ok report settled ∧
      round [adapter] none true 0 session = .ok last ended ∧
      Written settled ended report last ∧ last.written = ["a.Port"] := by
  intro session adapter
  have hon : session.options.disabled = false := by decide
  obtain ⟨report, settled, hround, hmodified, hlisted, hnames⟩ : ∃ report settled,
      round [adapter] none false 0 session = .ok report settled ∧
      settled.bench.registry.isModified = true ∧ settled.bench.registry.listed ≠ [] ∧
      (settled.bench.storage.accepted settled.bench.registry.listed).map Entry.name = ["a.Port"] :=
    ⟨_, _, rfl, by decide, by decide, by decide⟩
  have h := round_final_outcome hon [adapter] none 0
  rw [hround] at h
  obtain ⟨last, ended, hlast, -, -, -, hcurrent | hemptied | hwritten, -⟩ := h
  · exact absurd (hcurrent.unmodified.symm.trans hmodified) Bool.false_ne_true
  · obtain ⟨entry, hentry⟩ := List.exists_mem_of_ne_nil _ hlisted
    obtain ⟨hmem, p, hp⟩ := Registry.mem_listed_iff.mp hentry
    exact absurd hp (hemptied.unlisted entry hmem p)
  · refine ⟨hon, report, settled, last, ended, hround, hlast, hwritten, ?_⟩
    rw [hwritten.report, ← hnames]

end Session
end ProviderRegistry
