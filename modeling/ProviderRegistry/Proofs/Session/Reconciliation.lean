import ProviderRegistry.Proofs.Session.Flush
import ProviderRegistry.Proofs.Session.Play

/-!
# What a whole session makes of its registry

Over a memory every complete batch makes a round, up to the first that is the last of the session,
and no round fails. The registry afterwards is a function of what the memory listed at the start
and of the turns of the accepted batches (`play_memory`). So the names are those that the memory
listed and those that something was registered under; and the rounds themselves, their declarations
and their reports, say which providers a name lists: the last round that registered a provider
there against the last one that declared it (`play_reconciles`).
-/

namespace ProviderRegistry

/-! ### Rounds that register or declare -/

/-- The rounds that report a provider as registered under a name. -/
def roundsRegistering (rounds : List (Batch × Report)) (name provider : String) : Set ℕ :=
  roundsWith (fun round => (name, provider) ∈ round.2.registered) rounds

/-- The rounds that declare something of the name of a provider. -/
def roundsDeclaring (rounds : List (Batch × Report)) (provider : String) : Set ℕ :=
  roundsWith (fun round => ∃ d ∈ round.1.declarations, d.name = some provider) rounds

section Rounds

variable {rounds : List (Batch × Report)} {turns : List Turn}
  (h : (rounds.map fun round => round.2.registered) = turns.map Turn.registered)
include h

theorem roundsRegistering_eq (name provider : String) :
    roundsRegistering rounds name provider = Turn.registering turns name provider := by
  have hrounds := roundsWith_map (fun round : Batch × Report => round.2.registered)
    ((name, provider) ∈ ·) rounds
  rw [roundsRegistering, ← hrounds, h, roundsWith_map, Turn.registering]

theorem exists_registered_iff {Q : List (String × String) → Prop} :
    (∃ round ∈ rounds, Q round.2.registered) ↔ ∃ turn ∈ turns, Q turn.registered := by
  have hrounds : (∃ round ∈ rounds, Q round.2.registered) ↔
      ∃ pairs ∈ rounds.map fun round => round.2.registered, Q pairs := by
    simp only [List.mem_map, exists_exists_and_eq_and]
  rw [hrounds, h]
  simp only [List.mem_map, exists_exists_and_eq_and]

theorem forall_registered_iff {P : String × String → Prop} :
    (∀ round ∈ rounds, ∀ pair ∈ round.2.registered, P pair) ↔
      ∀ turn ∈ turns, ∀ pair ∈ turn.registered, P pair := by
  have hrounds : (∀ round ∈ rounds, ∀ pair ∈ round.2.registered, P pair) ↔
      ∀ pairs ∈ rounds.map fun round => round.2.registered, ∀ pair ∈ pairs, P pair := by
    rw [List.forall_mem_map]
  rw [hrounds, h, List.forall_mem_map]

end Rounds

theorem roundsDeclaring_eq {rounds : List (Batch × Report)} {batches : List Batch}
    (h : rounds.map Prod.fst = batches) (flavor : Flavor) (provider : String) :
    roundsDeclaring rounds provider = Turn.stripping (batches.map (·.turn flavor)) provider := by
  rw [Turn.stripping, roundsWith_map, roundsDeclaring]
  simp only [Batch.mem_stripped_iff]
  rw [← h, roundsWith_map]

namespace Session

variable {flavor : Flavor} {options : Options} {memory : Memory} {clock : ℕ → ℕ}
    {told : List Event}

/-- A session that comes to its last round ends with the flush of its registry. -/
theorem play_memory_of_final (hon : options.disabled = false) {batches : List Batch}
    (hbatches : ∀ batch ∈ batches, batch.Complete flavor)
    (hfinal : ∀ batch ∈ batches, batch.final = false) {last : Batch}
    (hcomplete : last.Complete flavor) (hlast : last.final = true) (rest : List Batch)
    (told : List Event) :
    ∃ report left told',
      play clock (batches ++ last :: rest)
        ⟨flavor, options, ⟨Registry.opened memory.listing? memory.names, memory, told⟩, 0, false⟩ =
        (Batch.history flavor 0 batches ++ [(last, report)],
          ⟨flavor, options,
            ⟨memory.registryAfter ((batches ++ [last]).map (·.turn flavor)), left, told'⟩,
            batches.length + 1, true⟩) ∧
      report.registered = (last.turn flavor).registered ∧
      memory.Leaves (memory.registryAfter ((batches ++ [last]).map (·.turn flavor))) left := by
  obtain ⟨told', hplay⟩ := play_of_final clock hon memory.offers hbatches hfinal hcomplete hlast
    rest (Registry.opened memory.listing? memory.names) told 0
  obtain ⟨report, left, told'', hflush, hregistered, hleft⟩ :=
    Work.flush_memory options (last.report flavor (batches.length + 1))
      (memory.registryAfter ((batches ++ [last]).map (·.turn flavor))) memory told'
  rw [Nat.zero_add] at hplay
  exact ⟨report, left, told'', hplay _ _ hflush, hregistered, hleft⟩

variable (clock) in
/-- **A whole session** completes the rounds of the batches that it accepts, and its registry
follows from them. -/
theorem play_memory (hon : options.disabled = false) {batches : List Batch}
    (hbatches : ∀ batch ∈ batches, batch.Complete flavor) (told : List Event) :
    ∃ rounds ended, play clock batches
        ⟨flavor, options, ⟨Registry.opened memory.listing? memory.names, memory, told⟩, 0, false⟩ =
      (rounds, ended) ∧
      rounds.map Prod.fst = Batch.accepted batches ∧
      (rounds.map fun round => round.2.registered) =
        ((Batch.accepted batches).map (·.turn flavor)).map Turn.registered ∧
      ended.bench.registry =
        memory.registryAfter ((Batch.accepted batches).map (·.turn flavor)) := by
  rcases Batch.forall_not_final_or_exists batches with
    hfinal | ⟨earlier, last, rest, rfl, hearlier, hlast⟩
  · -- no batch ends the session, so nothing is flushed
    obtain ⟨next, told', hnext, hplay⟩ := play_of_not_final clock hon memory.offers hbatches
      hfinal (Registry.opened memory.listing? memory.names) told 0
    have hplay := hplay []
    rw [List.append_nil] at hplay
    rw [Batch.accepted_of_not_final hfinal]
    refine ⟨_, _, hplay, ?_, ?_, ?_⟩
    · rw [play, List.append_nil, Batch.map_fst_history]
    · rw [play, List.append_nil, Batch.map_registered_history]
    · rw [play, hnext]
      rfl
  · -- the first last batch ends it, and the flush keeps the registry
    have hcomplete : ∀ batch ∈ earlier, batch.Complete flavor := fun batch hbatch =>
      hbatches batch (List.mem_append_left _ hbatch)
    obtain ⟨report, left, told', hplay, hregistered, -⟩ :=
      play_memory_of_final hon hcomplete hearlier (hbatches last (by simp)) hlast rest told
    rw [Batch.accepted_of_final hearlier hlast]
    refine ⟨_, _, hplay, ?_, ?_, rfl⟩
    · rw [List.map_append, Batch.map_fst_history]
      rfl
    · rw [List.map_append, Batch.map_registered_history, List.map_append, List.map_append,
        List.map_singleton, hregistered]
      rfl

/-- **Reconciliation.** Whatever the memory holds and whatever complete batches are handed over one
after the other, each batch up to the first that is the last of the session makes a round. Then the
names are those that the memory listed and those that a round registered something under; and a
name lists a provider just when the last round that registered it there is not before the last one
that declared it, or when there is neither and the memory listed it. -/
theorem play_reconciles (flavor : Flavor) (hon : options.disabled = false) (memory : Memory)
    (clock : ℕ → ℕ) {batches : List Batch} (hbatches : ∀ batch ∈ batches, batch.Complete flavor) :
    ∃ started rounds ended, start (new flavor options memory) = .ok () started ∧
      play clock batches started = (rounds, ended) ∧
      rounds.map Prod.fst = Batch.accepted batches ∧
      (∀ name, name ∈ ended.bench.registry.names ↔
        name ∈ memory.names ∨ ∃ round ∈ rounds, ∃ p, (name, p) ∈ round.2.registered) ∧
      ∀ entry ∈ ended.bench.registry.entries, ∀ p,
        p ∈ entry.providers ↔
          (∃ j, IsGreatest (roundsRegistering rounds entry.name p) j ∧
            ∀ i, IsGreatest (roundsDeclaring rounds p) i → i ≤ j) ∨
          (roundsRegistering rounds entry.name p = ∅ ∧ roundsDeclaring rounds p = ∅ ∧
            ∃ text, memory.listing? entry.name = some text ∧ p ∈ Listing.parse text) := by
  obtain ⟨told, hstart, -⟩ := start_new flavor hon memory.offers
  obtain ⟨rounds, ended, hplay, hbatch, hregistered, hregistry⟩ :=
    play_memory clock hon hbatches told
  refine ⟨_, rounds, ended, hstart, hplay, hbatch, fun name => ?_, fun entry hentry p => ?_⟩
  · rw [hregistry, Memory.registryAfter, Registry.mem_names_after]
    exact or_congr_right
      (exists_registered_iff (Q := fun pairs => ∃ p, (name, p) ∈ pairs) hregistered).symm
  · rw [roundsRegistering_eq hregistered, roundsDeclaring_eq hbatch flavor, ← Listing.mem_stored,
      ← Turn.holds_iff_isGreatest, ← Registry.mem_entryOf_after]
    have hself := (Registry.mem_entries_iff memory.listing?).mp hentry
    rw [hregistry] at hself
    rw [← Memory.registryAfter, hself.2]

/-- The law holds of a session over one listing, with one provider to be registered twice. -/
theorem play_reconciles_of_two_targets :
    let memory : Memory := { resources := [("a.Port", "a.Former\n")] }
    let adapter : Declaration :=
      { name := some "a.Adapter",
        markers := [("type_provider_for", [some "a.Port", some "b.Port"])] }
    let batches : List Batch := [{ declarations := [adapter] }, .finish]
    Options.disabled ⟨toolName, []⟩ = false ∧ (∀ batch ∈ batches, batch.Complete .type) ∧
      ∃ started rounds ended, start (new .type ⟨toolName, []⟩ memory) = .ok () started ∧
        play (fun _ => 0) batches started = (rounds, ended) ∧ rounds.map Prod.fst = batches ∧
        ("b.Port" ∈ ended.bench.registry.names ↔
          "b.Port" ∈ memory.names ∨
            ∃ round ∈ rounds, ∃ p, ("b.Port", p) ∈ round.2.registered) := by
  intro memory adapter batches
  have hon : Options.disabled ⟨toolName, []⟩ = false := by decide
  have hbatches : ∀ batch ∈ batches, batch.Complete .type := by decide
  obtain ⟨started, rounds, ended, hstart, hplay, haccepted, hnames, -⟩ :=
    play_reconciles .type hon memory (fun _ => 0) hbatches
  exact ⟨hon, hbatches, started, rounds, ended, hstart, hplay, haccepted, hnames "b.Port"⟩

end Session

end ProviderRegistry
