import ProviderRegistry.Proofs.Session.Again
import ProviderRegistry.Proofs.Session.Reconciliation
import ProviderRegistry.Proofs.Storage.Watched

/-!
# Running a session a second time

A whole run starts a session, hands over some batches and then finishes it (`Session.run`). The
same run over the memory that the first one left does not change its texts, whatever the first run
deleted, emptied or failed to write (`run_again_resources`). If the first run failed to write
nothing and left no empty entry, the second finds nothing to do and does not even try
(`run_again_idle`).
-/

namespace ProviderRegistry

namespace Batch

/-- A run comes to its last batch, the finish at the latest. -/
theorem exists_accepted_finish (batches : List Batch) :
    ∃ earlier last rest, batches ++ [finish] = earlier ++ last :: rest ∧
      (∀ batch ∈ earlier, batch.final = false) ∧ last.final = true ∧
      accepted (batches ++ [finish]) = earlier ++ [last] := by
  rcases forall_not_final_or_exists (batches ++ [finish]) with
    hnone | ⟨earlier, last, rest, hbatches, hearlier, hlast⟩
  · exact absurd (hnone finish (by simp)) (by decide)
  · exact ⟨earlier, last, rest, hbatches, hearlier, hlast,
      by rw [hbatches, accepted_of_final hearlier hlast]⟩

/-- The turns of a whole run. -/
def turns (flavor : Flavor) (batches : List Batch) : List Turn :=
  (accepted (batches ++ [finish])).map (·.turn flavor)

theorem complete_append_finish {flavor : Flavor} {batches : List Batch}
    (h : ∀ batch ∈ batches, batch.Complete flavor) :
    ∀ batch ∈ batches ++ [finish], batch.Complete flavor :=
  List.forall_mem_append.mpr ⟨h, by simp [complete_finish]⟩

/-- A whole run over complete batches goes through clean turns if it registers clean providers. -/
theorem clean_turns {flavor : Flavor} {batches : List Batch}
    (hbatches : ∀ batch ∈ batches, batch.Complete flavor)
    (h : ∀ turn ∈ turns flavor batches, ∀ pair ∈ turn.registered, Listing.Clean pair.2) :
    Turn.Clean (turns flavor batches) := by
  intro turn hturn pair hpair
  refine ⟨h turn hturn pair hpair, ?_⟩
  obtain ⟨batch, hbatch, rfl⟩ := List.mem_map.mp hturn
  have hcomplete := complete_append_finish hbatches batch (accepted_subset _ hbatch)
  exact hcomplete.ne_empty_of_mem_registered hpair

end Batch

namespace Session

variable {σ : Type} [Storage σ] {flavor : Flavor} {options : Options} {batches : List Batch}

/-- **A whole run**: a session over a storage starts, is given some batches one after the other,
and is finished, unless one of them was its last. -/
def run (clock : ℕ → ℕ) (flavor : Flavor) (options : Options) (batches : List Batch)
    (storage : σ) :
    List (Batch × Report) × Session σ :=
  match start (new flavor options storage) with
  | .ok () session => play clock (batches ++ [.finish]) session
  | .error _ session => ([], session)

variable (flavor batches) in
/-- A run that is turned off leaves its storage as it is. -/
theorem run_of_disabled (hoff : options.disabled = true) (clock : ℕ → ℕ) (storage : σ) :
    ∃ ended, run clock flavor options batches storage =
        (Batch.idle 0 (batches ++ [.finish]), ended) ∧
      ended.bench = .new storage ∧ ended.finished = true := by
  obtain ⟨ended, hplay, hbench, hfinished⟩ :=
    play_of_disabled clock flavor hoff (.new storage) 0 (batches ++ [.finish])
  rw [run, start_new_of_disabled flavor hoff]
  refine ⟨ended, hplay, hbench, ?_⟩
  rw [hfinished, List.any_append]
  exact Bool.or_true _

section Enabled

variable (hon : options.disabled = false) (hbatches : ∀ batch ∈ batches, batch.Complete flavor)
  (clock : ℕ → ℕ)
include hon hbatches

/-- A run over a storage ends with the flush of its registry. -/
theorem run_of_flush {storage : σ} {names : List String} {text : String → Option String}
    (h : Storage.Offers storage names text) :
    ∃ earlier last told, Batch.accepted (batches ++ [.finish]) = earlier ++ [last] ∧
      ∀ report bench,
        Work.flush options (last.report flavor (0 + earlier.length + 1))
            ⟨Registry.after text names (Batch.turns flavor batches), storage, told⟩ =
          .ok report bench →
        run clock flavor options batches storage =
          (Batch.history flavor 0 earlier ++ [(last, report)],
            ⟨flavor, options, bench, 0 + earlier.length + 1, true⟩) := by
  have hcomplete := Batch.complete_append_finish hbatches
  obtain ⟨earlier, last, rest, hsplit, hearlier, hlast, haccepted⟩ :=
    Batch.exists_accepted_finish batches
  obtain ⟨told, hstart, -⟩ := start_new flavor hon h
  rw [hsplit] at hcomplete
  obtain ⟨told', hplay⟩ := play_of_final clock hon h
    (fun batch hbatch => hcomplete batch (List.mem_append_left _ hbatch)) hearlier
    (hcomplete last (by simp)) hlast rest (Registry.opened text names) told 0
  rw [Batch.turns, haccepted, run, hstart, hsplit]
  exact ⟨earlier, last, told', rfl, hplay⟩

/-- A run over a memory keeps the registry of its turns through the flush. -/
theorem run_memory (memory : Memory) :
    ∃ rounds left told number, run clock flavor options batches memory =
        (rounds, ⟨flavor, options, ⟨memory.registryAfter (Batch.turns flavor batches), left, told⟩,
          number, true⟩) ∧
      rounds.map Prod.fst = Batch.accepted (batches ++ [.finish]) ∧
      (rounds.map fun round => round.2.registered) =
        (Batch.turns flavor batches).map Turn.registered ∧
      memory.Leaves (memory.registryAfter (Batch.turns flavor batches)) left := by
  obtain ⟨earlier, last, told, haccepted, hrun⟩ := run_of_flush hon hbatches clock memory.offers
  obtain ⟨report, left, told', hflush, hregistered, hleft⟩ :=
    Work.flush_memory options (last.report flavor (0 + earlier.length + 1))
      (memory.registryAfter (Batch.turns flavor batches)) memory told
  refine ⟨_, left, told', _, hrun _ _ hflush, ?_, ?_, hleft⟩
  · rw [haccepted, List.map_append, Batch.map_fst_history]
    rfl
  · rw [Batch.turns, haccepted, List.map_append, Batch.map_registered_history, List.map_append,
      List.map_append, List.map_singleton, hregistered]
    rfl

/-- A run that finds nothing changed leaves its storage as it is. -/
theorem run_of_unmodified {storage : σ} {names : List String} {text : String → Option String}
    (h : Storage.Offers storage names text)
    (hunmodified : (Registry.after text names (Batch.turns flavor batches)).isModified = false) :
    ∃ told number, run clock flavor options batches storage =
      (Batch.history flavor 0 (Batch.accepted (batches ++ [.finish])),
        ⟨flavor, options, ⟨Registry.after text names (Batch.turns flavor batches), storage, told⟩,
          number, true⟩) := by
  obtain ⟨earlier, last, told, haccepted, hrun⟩ := run_of_flush hon hbatches clock h
  refine ⟨told, 0 + earlier.length + 1, ?_⟩
  rw [haccepted, Batch.history_concat]
  exact hrun _ _ (Work.flush_of_unmodified hunmodified)

end Enabled

/-! ### Idle runs -/

/-- A run is **idle** over some texts when it completes these rounds over every storage that offers
the texts, reports of none of them a change, and leaves the storage as it is. -/
structure Idle (clock : ℕ → ℕ) (flavor : Flavor) (options : Options) (batches : List Batch)
    (names : List String) (text : String → Option String) (rounds : List (Batch × Report)) :
    Prop where
  accepted : rounds.map Prod.fst = Batch.accepted (batches ++ [.finish])
  unflushed : ∀ round ∈ rounds, round.2.final = round.1.final ∧ round.2.Unflushed
  leaves : ∀ {τ : Type} [Storage τ] {storage : τ}, Storage.Offers storage names text →
    ∃ ended, run clock flavor options batches storage = (rounds, ended) ∧
      ended.bench.storage = storage

variable {clock : ℕ → ℕ} {names : List String} {text : String → Option String}
  {rounds : List (Batch × Report)}

theorem idle_of_disabled (hoff : options.disabled = true) (clock : ℕ → ℕ) (names : List String)
    (text : String → Option String) :
    Idle clock flavor options batches names text (Batch.idle 0 (batches ++ [.finish])) where
  accepted := Batch.map_fst_idle 0 _
  unflushed _ hround := Batch.unflushed_of_mem_idle hround
  leaves {_} _ storage _ := by
    obtain ⟨ended, hrun, hbench, -⟩ := run_of_disabled flavor batches hoff clock storage
    exact ⟨ended, hrun, by rw [hbench]; rfl⟩

theorem idle_of_unmodified (hon : options.disabled = false)
    (hbatches : ∀ batch ∈ batches, batch.Complete flavor) (clock : ℕ → ℕ)
    (hunmodified : (Registry.after text names (Batch.turns flavor batches)).isModified = false) :
    Idle clock flavor options batches names text
      (Batch.history flavor 0 (Batch.accepted (batches ++ [.finish]))) where
  accepted := Batch.map_fst_history flavor 0 _
  unflushed _ hround := Batch.unflushed_of_mem_history hround
  leaves {_} _ _ h := by
    obtain ⟨told, number, hrun⟩ := run_of_unmodified hon hbatches clock h hunmodified
    exact ⟨_, hrun, rfl⟩

/-- One of the rounds is the last of the session. -/
theorem Idle.exists_final (h : Idle clock flavor options batches names text rounds) :
    ∃ round ∈ rounds, round.2.final = true := by
  obtain ⟨earlier, last, -, -, -, hlast, haccepted⟩ := Batch.exists_accepted_finish batches
  have hmem : last ∈ rounds.map Prod.fst := by simp [h.accepted, haccepted]
  obtain ⟨round, hround, rfl⟩ := List.mem_map.mp hmem
  exact ⟨round, hround, (h.unflushed round hround).1.trans hlast⟩

/-! ### The second run -/

/-- **A second run changes no text.** Over the memory that a whole run left, with the tool and the
refusals that it has, the same run ends with the same names and the same texts in the same order.
The name of the tool must have no line break, and what the first run registered must be clean. -/
theorem run_again_resources {memory : Memory} {rounds : List (Batch × Report)}
    {ended : Session Memory} {clock : ℕ → ℕ} (clock' : ℕ → ℕ) (htool : '\n' ∉ memory.tool.toList)
    (hbatches : ∀ batch ∈ batches, batch.Complete flavor)
    (hrun : run clock flavor options batches memory = (rounds, ended))
    (hclean : ∀ round ∈ rounds, ∀ pair ∈ round.2.registered, Listing.Clean pair.2) :
    rounds.map Prod.fst = Batch.accepted (batches ++ [.finish]) ∧ ended.finished = true ∧
      ∃ rounds' ended', run clock' flavor options batches ended.bench.storage = (rounds', ended') ∧
        rounds'.map Prod.fst = Batch.accepted (batches ++ [.finish]) ∧ ended'.finished = true ∧
        ended'.bench.storage.resources = ended.bench.storage.resources := by
  cases hon : options.disabled with
  | true =>
    obtain ⟨ended₁, hrun₁, hbench, hfinished⟩ :=
      run_of_disabled flavor batches hon clock memory
    obtain ⟨rfl, rfl⟩ := Prod.mk.inj (hrun₁.symm.trans hrun)
    obtain ⟨ended', hrun', hbench', hfinished'⟩ :=
      run_of_disabled flavor batches hon clock' ended₁.bench.storage
    refine ⟨Batch.map_fst_idle 0 _, hfinished, _, ended', hrun', Batch.map_fst_idle 0 _,
      hfinished', ?_⟩
    rw [hbench']
    rfl
  | false =>
    obtain ⟨rounds₁, left, told, number, hrun₁, haccepted, hregistered, hleft⟩ :=
      run_memory hon hbatches clock memory
    obtain ⟨rfl, rfl⟩ := Prod.mk.inj (hrun₁.symm.trans hrun)
    have hturns : Turn.Clean (Batch.turns flavor batches) :=
      Batch.clean_turns hbatches ((forall_registered_iff hregistered).mp hclean)
    obtain ⟨rounds', left', told', number', hrun', haccepted', -, hleft'⟩ :=
      run_memory hon hbatches clock' left
    refine ⟨haccepted, rfl, rounds', _, hrun', haccepted', rfl, ?_⟩
    exact hleft'.resources.trans (Memory.flushed_again htool hturns hleft)

/-- A run that fails to write one of two listings fails again, and leaves the other as it wrote
it. -/
theorem run_again_resources_of_refused_write :
    let memory : Memory := { resources := [("a.Port", "a.Former")], refusedWrites := ["b.Port"] }
    let adapter : Declaration :=
      { name := some "a.Adapter",
        markers := [("type_provider_for", [some "a.Port", some "b.Port"])] }
    let first := run (fun _ => 0) .type ⟨toolName, []⟩ [{ declarations := [adapter] }] memory
    let second :=
      run (fun _ => 1) .type ⟨toolName, []⟩ [{ declarations := [adapter] }] first.2.bench.storage
    (∀ round ∈ first.1, ∀ pair ∈ round.2.registered, Listing.Clean pair.2) ∧
      first.2.bench.storage.written = ["a.Port"] ∧
      second.2.bench.storage.resources = first.2.bench.storage.resources := by
  intro memory adapter first second
  have hclean : ∀ round ∈ first.1, ∀ pair ∈ round.2.registered, Listing.Clean pair.2 := by
    decide +kernel
  obtain ⟨-, -, rounds', ended', hrun', -, -, hresources⟩ :=
    run_again_resources (fun _ => 1) (by decide) (by decide) (Prod.eta first).symm hclean
  have hsecond : second = (rounds', ended') := hrun'
  rw [hsecond]
  exact ⟨hclean, by decide +kernel, hresources⟩

/-- **A second run finds nothing to do** where the first one failed to write nothing, registered
clean providers under names that are no logs, and left no entry empty. No round of it reports a
change, its memory stays as it is, and to a storage that watches the calls it makes none. -/
theorem run_again_idle {memory : Memory} {rounds : List (Batch × Report)}
    {ended : Session Memory} {clock : ℕ → ℕ} (clock' : ℕ → ℕ) (htool : '\n' ∉ memory.tool.toList)
    (haccepts : memory.refusedWrites = []) (hbatches : ∀ batch ∈ batches, batch.Complete flavor)
    (hrun : run clock flavor options batches memory = (rounds, ended))
    (hclean : ∀ round ∈ rounds, ∀ pair ∈ round.2.registered, Listing.Clean pair.2)
    (hlogs : ∀ round ∈ rounds, ∀ pair ∈ round.2.registered, Listing.isLogName pair.1 = false)
    (hfull : ∀ entry ∈ ended.bench.registry.entries, entry.providers.isEmpty = false) :
    ∃ rounds' ended' watched,
      run clock' flavor options batches ended.bench.storage = (rounds', ended') ∧
      run clock' flavor options batches (⟨ended.bench.storage, []⟩ : Watched Memory) =
        (rounds', watched) ∧
      rounds'.map Prod.fst = Batch.accepted (batches ++ [.finish]) ∧
      (∃ round ∈ rounds', round.2.final = true) ∧
      (∀ round ∈ rounds',
        round.2.modified = false ∧ round.2.written = [] ∧ round.2.deleted = false) ∧
      ended'.bench.storage = ended.bench.storage ∧
      watched.bench.storage = ⟨ended.bench.storage, []⟩ := by
  -- what the first run left is all that the second depends on, whichever storage offers it
  have hidle : ∃ rounds', Idle clock' flavor options batches ended.bench.storage.names
      ended.bench.storage.listing? rounds' := by
    cases hon : options.disabled with
    | true => exact ⟨_, idle_of_disabled hon clock' _ _⟩
    | false =>
      obtain ⟨rounds₁, left, told, number, hrun₁, haccepted, hregistered, hleft⟩ :=
        run_memory hon hbatches clock memory
      obtain ⟨rfl, rfl⟩ := Prod.mk.inj (hrun₁.symm.trans hrun)
      have hturns : Turn.Clean (Batch.turns flavor batches) :=
        Batch.clean_turns hbatches ((forall_registered_iff hregistered).mp hclean)
      refine ⟨_, idle_of_unmodified hon hbatches clock' ?_⟩
      exact Memory.isModified_again htool hturns hleft haccepts
        ((forall_registered_iff hregistered).mp hlogs)
        fun entry hentry => ProviderSet.isEmpty_eq_false_iff.mp (hfull entry hentry)
  obtain ⟨rounds', hidle⟩ := hidle
  obtain ⟨ended', hrun', hstorage⟩ := hidle.leaves ended.bench.storage.offers
  obtain ⟨watched, hwatched, hcalls⟩ := hidle.leaves (Watched.offers ended.bench.storage.offers [])
  refine ⟨rounds', ended', watched, hrun', hwatched, hidle.accepted, hidle.exists_final, ?_,
    hstorage, hcalls⟩
  intro round hround
  obtain ⟨-, hmodified, hwritten, hdeleted, -⟩ := hidle.unflushed round hround
  exact ⟨hmodified, hwritten, hdeleted⟩

/-- The second run over a memory that lists one provider more after the first makes no call. -/
theorem run_again_idle_of_one_listing :
    let memory : Memory := { resources := [("a.Port", "a.Former")] }
    let adapter : Declaration :=
      { name := some "a.Adapter", markers := [("type_provider_for", [some "a.Port"])] }
    let first := run (fun _ => 0) .type ⟨toolName, []⟩ [{ declarations := [adapter] }] memory
    let watched := run (fun _ => 1) .type ⟨toolName, []⟩ [{ declarations := [adapter] }]
      (⟨first.2.bench.storage, []⟩ : Watched Memory)
    (∀ round ∈ first.1, ∀ pair ∈ round.2.registered, Listing.Clean pair.2) ∧
      (∀ round ∈ first.1, ∀ pair ∈ round.2.registered, Listing.isLogName pair.1 = false) ∧
      (∀ entry ∈ first.2.bench.registry.entries, entry.providers.isEmpty = false) ∧
      first.2.bench.storage.written = ["a.Port"] ∧ watched.2.bench.storage.calls = [] := by
  intro memory adapter first watched
  have hclean : ∀ round ∈ first.1, ∀ pair ∈ round.2.registered, Listing.Clean pair.2 := by
    decide +kernel
  have hlogs : ∀ round ∈ first.1, ∀ pair ∈ round.2.registered,
      Listing.isLogName pair.1 = false := by decide +kernel
  have hfull : ∀ entry ∈ first.2.bench.registry.entries, entry.providers.isEmpty = false := by
    decide +kernel
  obtain ⟨rounds', -, watched', -, hwatched, -, -, -, -, hcalls⟩ :=
    run_again_idle (fun _ => 1) (by decide) rfl (by decide) (Prod.eta first).symm hclean hlogs
      hfull
  have hrun : watched = (rounds', watched') := hwatched
  refine ⟨hclean, hlogs, hfull, by decide +kernel, ?_⟩
  rw [hrun, hcalls]

end Session

end ProviderRegistry
