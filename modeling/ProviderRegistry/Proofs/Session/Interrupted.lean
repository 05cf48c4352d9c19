import ProviderRegistry.Proofs.Session.Life

/-!
# Rounds that fail halfway

A round fails over the first declaration that lacks a name, or a target, where one is needed. What
it did before stays done: the registry has gone through **part** of the turn of the batch
(`Turn.PartOf`), and may have been asked for the target at which the round failed
(`Registry.AskedAtMost`). Which batches fail, and with which fault, is decided by the batch alone
(`Batch.fault?`).

Such a failure does not end the session. It goes on from the registry that the round left, counts
every later call, and the call that finishes it brings the storage in step with that registry
(`process_whole_or_part`), although only part of a round went into it
(`part_of_round_is_flushed`).
-/

namespace ProviderRegistry

/-- A turn is **part of** another when it stops while it strips, or while it registers. -/
inductive Turn.PartOf (turn : Turn) : Turn → Prop
  | stripping {stripped : List String} (h : stripped <+: turn.stripped) :
    PartOf turn ⟨stripped, []⟩
  | registering {registered : List (String × String)} (h : registered <+: turn.registered) :
    PartOf turn ⟨turn.stripped, registered⟩

/-- A registry after it was **asked at most** for one name, which is loaded then. -/
def Registry.AskedAtMost (text : String → Option String) (registry after : Registry) : Prop :=
  after = registry ∨ ∃ name, after = registry.demand text name

/-! ### Work that fails -/

namespace Work

variable {σ α β : Type} {storage : σ} {before between after : Registry} {diagnosed : Diagnostics}
  {fault : Fault}

/-- Work **fails** with a fault and leaves a registry when it does so on every workbench with this
storage and registry, leaves the storage alone and adds to what was told. -/
def Fails (work : Work σ α) (storage : σ) (before : Registry) (fault : Fault) (after : Registry) :
    Prop :=
  ∀ told, ∃ more, work ⟨before, storage, told⟩ = .error fault ⟨after, storage, told ++ more⟩

theorem fails_ofExcept (fault : Fault) :
    (ofExcept (.error fault) : Work σ α).Fails storage before fault before :=
  fun told => ⟨[], by rw [List.append_nil]; rfl⟩

theorem Fails.bind {work : Work σ α} (h : work.Fails storage before fault after)
    (k : α → Work σ β) : (work >>= k).Fails storage before fault after := by
  intro told
  obtain ⟨more, hrun⟩ := h told
  exact ⟨more, bind_of_error hrun⟩

/-- What was done before a failure stays done. -/
theorem Settles.bind_fails {work : Work σ α} {k : α → Work σ β} {value : α}
    (h : work.Settles storage before value between diagnosed)
    (hk : (k value).Fails storage between fault after) :
    (work >>= k).Fails storage before fault after := by
  intro told
  obtain ⟨more, hrun, -⟩ := h told
  obtain ⟨more', hrun'⟩ := hk (told ++ more)
  exact ⟨more ++ more', by rw [bind_of_ok hrun, hrun', List.append_assoc]⟩

/-- Work for each of some things in turn fails at the first for which it does not settle. -/
theorem fails_mapM {f : α → Work σ β} {v : α → β} {g : Registry → α → Registry}
    {d : α → Diagnostics} {as : List α} {a : α}
    (h : ∀ a ∈ as, ∀ registry, (f a).Settles storage registry (v a) (g registry a) (d a))
    (ha : (f a).Fails storage (as.foldl g before) fault after) (rest : List α) :
    ((as ++ a :: rest).mapM f).Fails storage before fault after := by
  induction as generalizing before with
  | nil =>
    rw [List.nil_append, List.mapM_cons]
    exact ha.bind _
  | cons first as ih =>
    rw [List.cons_append, List.mapM_cons]
    refine (h first List.mem_cons_self before).bind_fails (Fails.bind ?_ _)
    exact ih (fun b hb => h b (List.mem_cons_of_mem first hb)) ha

/-! ### Rounds that fail -/

section Round

variable {flavor : Flavor} {d : Declaration}

theorem fails_reject (hd : d.name = none) (objection : Objection) :
    (reject d objection : Work σ Verdict).Fails storage before .nameless before := by
  rw [reject, Rejection.of, hd]
  exact (fails_ofExcept _).bind _

/-- The first declaration without a name cannot be taken from the entries. -/
theorem fails_strip {declarations : List Declaration}
    (h : none ∈ declarations.map Declaration.name) :
    ∃ stripped, stripped <+: declarations.filterMap Declaration.name ∧
      (strip declarations : Work σ Unit).Fails storage before (.missing "provider")
        (stripped.foldl Registry.remove before) := by
  induction declarations generalizing before with
  | nil => exact absurd h List.not_mem_nil
  | cons d ds ih =>
    change ∃ stripped, _ ∧
      (remove d.name >>= fun _ => strip ds : Work σ Unit).Fails storage before _ _
    cases hname : d.name with
    | none => exact ⟨[], List.nil_prefix, ((fails_ofExcept _).bind _).bind _⟩
    | some name =>
      have hrest : none ∈ ds.map Declaration.name := by simpa [hname] using h
      obtain ⟨stripped, hbegun, hfails⟩ := @ih (before.remove name) hrest
      refine ⟨name :: stripped, ?_, (settles_remove name).bind_fails hfails⟩
      rw [List.filterMap_cons_some hname]
      exact (List.prefix_cons_inj name).mpr hbegun

variable [Storage σ] {names : List String} {text : String → Option String}

/-- Nothing can be added where no name is given. -/
theorem fails_add_of_no_name (provider : Option String) :
    (add none provider : Work σ Unit).Fails storage before (.missing "name") before := by
  have hentry : (entry none : Work σ Entry).Fails storage before (.missing "name") before :=
    (fails_ofExcept _).bind _
  have hchange : (changeEntry none (Entry.add · provider) : Work σ Entry).Fails storage before
      (.missing "name") before := hentry.bind _
  exact hchange.bind fun _ => pure ()

/-- A provider without a name cannot be added, but its target is loaded before that shows. -/
theorem fails_add_of_no_provider (h : Storage.Offers storage names text) (name : String)
    {provider : Option String} (hprovider : provider = none ∨ provider = some "") :
    (add (some name) provider : Work σ Unit).Fails storage before .emptyProvider
      (before.demand text name) := by
  have hadd : (before.entryOf text name).add provider = .error .emptyProvider := by
    rcases hprovider with rfl | rfl <;> rw [Entry.add]
  refine Fails.bind ((settles_entry_of_gives (h.listing name)).bind_fails (Fails.bind ?_ _)) _
  simp only [hadd]
  exact fails_ofExcept _

/-- A declaration that comes to a fault under a target is not registered there, but the target may
have been asked for. -/
theorem fails_registerUnder (h : Storage.Offers storage names text) {target : Option String}
    (hfault : flavor.faultUnder? d target = some fault) :
    ∃ after, before.AskedAtMost text after ∧
      (registerUnder flavor d target : Work σ Verdict).Fails storage before fault after := by
  rw [Flavor.faultUnder?] at hfault
  rw [registerUnder]
  cases hobjection : flavor.targetObjection? d target with
  | some objection =>
    rw [hobjection] at hfault
    obtain ⟨hname, rfl⟩ : d.name = none ∧ Fault.nameless = fault := by simpa using hfault
    exact ⟨before, Or.inl rfl, fails_reject hname objection⟩
  | none =>
    rw [hobjection] at hfault
    cases target with
    | none =>
      obtain rfl : Fault.missing "name" = fault := by simpa using hfault
      exact ⟨before, Or.inl rfl, (fails_add_of_no_name d.name).bind _⟩
    | some name =>
      obtain ⟨hname, rfl⟩ : (d.name = none ∨ d.name = some "") ∧ Fault.emptyProvider = fault := by
        simpa using hfault
      exact ⟨before.demand text name, Or.inr ⟨name, rfl⟩,
        (fails_add_of_no_provider h name hname).bind _⟩

/-- A declaration that comes to a fault was registered under the targets before it. -/
theorem fails_register (h : Storage.Offers storage names text)
    (hfault : flavor.fault? d = some fault) :
    ∃ verdicts after, verdicts <+: flavor.verdicts d ∧
      (verdicts.foldl (Registry.follow text) before).AskedAtMost text after ∧
      (register flavor d : Work σ (List Verdict)).Fails storage before fault after := by
  rw [Flavor.fault?] at hfault
  rw [register, Flavor.verdicts]
  cases hobjection : flavor.objection? d with
  | some objection =>
    rw [hobjection] at hfault
    obtain ⟨hname, rfl⟩ : d.name = none ∧ Fault.nameless = fault := by simpa using hfault
    exact ⟨[], before, List.nil_prefix, Or.inl rfl, (fails_reject hname objection).bind _⟩
  | none =>
    rw [hobjection] at hfault
    obtain ⟨earlier, target, later, htargets, htarget, hearlier⟩ :=
      List.findSome?_eq_some_iff.mp hfault
    obtain ⟨after, hafter, hfails⟩ := @fails_registerUnder σ storage
      ((earlier.map (flavor.verdictUnder d)).foldl (Registry.follow text) before) fault flavor d _
      names text h target htarget
    refine ⟨earlier.map (flavor.verdictUnder d), after, ?_, hafter, ?_⟩
    · simp only [htargets, List.map_append]
      exact List.prefix_append _ _
    · rw [List.foldl_map] at hfails
      simp only [htargets]
      exact fails_mapM (fun target htarget _ => settles_registerUnder h (hearlier target htarget))
        hfails later

/-- **A round over a batch with a fault** goes through part of its turn and fails. -/
theorem fails_reconcile (h : Storage.Offers storage names text) {batch : Batch}
    (hfault : batch.fault? flavor = some fault) (report : Report) (duration : ℕ) :
    ∃ part after, (batch.turn flavor).PartOf part ∧
      (before.turn text part).AskedAtMost text after ∧
      (reconcile flavor report batch.declarations (batch.marked flavor) duration :
        Work σ Report).Fails storage before fault after := by
  rw [Batch.fault?] at hfault
  split at hfault
  · rename_i hmissing
    obtain rfl := Option.some.inj hfault
    obtain ⟨stripped, hbegun, hfails⟩ := @fails_strip σ storage before _ hmissing
    exact ⟨⟨stripped, []⟩, _, .stripping hbegun, Or.inl rfl,
      (settles_tell _).bind_fails (hfails.bind _)⟩
  · rename_i hnamed
    obtain ⟨earlier, d, later, hmarked, hd, hearlier⟩ := List.findSome?_eq_some_iff.mp hfault
    let stripped := (batch.turn flavor).stripped.foldl Registry.remove before
    let settled := (earlier.flatMap flavor.verdicts).foldl (Registry.follow text) stripped
    obtain ⟨verdicts, after, hbegun, hafter, hfails⟩ :=
      @fails_register σ storage settled fault flavor d _ names text h hd
    let done := earlier.flatMap flavor.verdicts ++ verdicts
    have hdone : done <+: batch.verdicts flavor := by
      rw [Batch.verdicts, hmarked, List.flatMap_append, List.flatMap_cons]
      exact (List.prefix_append_right_inj _).mpr (hbegun.trans (List.prefix_append _ _))
    refine ⟨⟨(batch.turn flavor).stripped, done.filterMap Verdict.registration?⟩, after,
      .registering (hdone.filterMap _), ?_, ?_⟩
    · rwa [Registry.turn, ← Registry.foldl_follow, List.foldl_append]
    · refine (settles_tell _).bind_fails ((settles_strip fun d hd hname => ?_).bind_fails ?_)
      · exact hnamed (List.mem_map.mpr ⟨d, hd, hname⟩)
      refine Fails.bind ?_ _
      rw [hmarked]
      refine fails_mapM (fun d hd _ => settles_register h (hearlier d hd)) ?_ later
      rwa [← List.foldl_flatMap]

end Round

end Work

namespace Session

variable {clock : ℕ → ℕ}

/-- **A batch with a fault** takes the registry through part of its turn and makes the round fail.
The session goes on. -/
theorem process_of_fault?_eq_some {σ : Type} [Storage σ] {flavor : Flavor} {options : Options}
    {storage : σ} {names : List String} {text : String → Option String} {batch : Batch}
    {fault : Fault} (hon : options.disabled = false) (h : Storage.Offers storage names text)
    (hfault : batch.fault? flavor = some fault) (registry : Registry) (told : List Event)
    (number : ℕ) :
    ∃ part after more, (batch.turn flavor).PartOf part ∧
      (registry.turn text part).AskedAtMost text after ∧
      process clock batch ⟨flavor, options, ⟨registry, storage, told⟩, number, false⟩ =
        .error fault ⟨flavor, options, ⟨after, storage, told ++ more⟩, number + 1, false⟩ := by
  obtain ⟨part, after, hpart, hafter, hfails⟩ := @Work.fails_reconcile σ storage registry fault
    flavor _ _ _ h _ hfault { number := number + 1, final := batch.final } (clock number)
  obtain ⟨more, hrun⟩ := hfails told
  refine ⟨part, after, more, hpart, hafter, ?_⟩
  rw [process_of_enabled hon, Work.round, bind_of_error hrun]

/-- A session over a memory that goes on can be finished, which brings the memory in step with the
registry as it is. -/
theorem finish_of_memory {session : Session Memory} (hopen : session.finished = false)
    (hon : session.options.disabled = false) (duration : ℕ) :
    ∃ report ended, finish duration session = .ok report ended ∧ ended.finished = true ∧
      session.bench.storage.Leaves session.bench.registry ended.bench.storage := by
  obtain ⟨flavor, options, ⟨registry, memory, told⟩, number, finished⟩ := session
  subst hopen
  obtain ⟨more, hrun, -⟩ := @process_of_final Memory _ (fun _ => duration) flavor options memory
    memory.names memory.listing? registry told number _ hon memory.offers
    (Batch.complete_finish flavor) rfl
  have hturn : registry.turn memory.listing? (Batch.finish.turn flavor) = registry := rfl
  rw [hturn] at hrun
  obtain ⟨last, left, told', hflush, -, hleaves⟩ := Work.flush_memory options
    (Batch.finish.report flavor (number + 1)) registry memory (told ++ more)
  rw [hflush] at hrun
  exact ⟨_, _, hrun, rfl, hleaves⟩

/-- **A round comes to an end or stops halfway**, as its batch alone decides. Without a fault in
the batch the registry goes through the whole turn. With one, the round fails with that fault, the
registry has gone through part of the turn, and the memory is as it was; but the session goes on:
every later call counts, and to finish the session brings the memory in step with the registry that
the failed round left. -/
theorem process_whole_or_part (clock : ℕ → ℕ) (session : Session Memory) (batch : Batch)
    (hopen : session.finished = false) (hon : session.options.disabled = false) :
    match process clock batch session with
    | .ok _ after =>
      batch.fault? session.flavor = none ∧
        after.bench.registry = session.bench.registry.turn session.bench.storage.listing?
          (batch.turn session.flavor)
    | .error fault failed =>
      batch.fault? session.flavor = some fault ∧
        failed.finished = false ∧ failed.rounds = session.rounds + 1 ∧
        failed.bench.storage = session.bench.storage ∧
        (∃ part, (batch.turn session.flavor).PartOf part ∧
          (session.bench.registry.turn session.bench.storage.listing? part).AskedAtMost
            session.bench.storage.listing? failed.bench.registry) ∧
        (∀ next, (failed.attempt clock next).Counts) ∧
        ∀ duration, ∃ report ended, finish duration failed = .ok report ended ∧
          ended.finished = true ∧
          failed.bench.storage.Leaves failed.bench.registry ended.bench.storage := by
  obtain ⟨flavor, options, ⟨registry, memory, told⟩, number, finished⟩ := session
  subst hopen
  cases hfault : batch.fault? flavor with
  | none =>
    obtain ⟨more, hrun, -⟩ := @process_of_fault?_eq_none Memory _ clock flavor options memory
      memory.names memory.listing? registry told number batch hon memory.offers hfault
    obtain ⟨last, left, told', hflush, -⟩ := Work.flush_memory options
      (batch.report flavor (number + 1)) (registry.turn memory.listing? (batch.turn flavor)) memory
      (told ++ more)
    rw [hrun]
    cases batch.final with
    | false => exact ⟨rfl, rfl⟩
    | true =>
      rw [if_pos rfl, hflush]
      exact ⟨rfl, rfl⟩
  | some fault =>
    obtain ⟨part, after, more, hpart, hafter, hrun⟩ := @process_of_fault?_eq_some clock _ _ _ _
      memory _ _ _ _ hon memory.offers hfault registry told number
    rw [hrun]
    let failed : Session Memory :=
      ⟨flavor, options, ⟨after, memory, told ++ more⟩, number + 1, false⟩
    exact ⟨rfl, rfl, rfl, rfl, ⟨part, hpart, hafter⟩, fun next => counts_attempt rfl next,
      fun duration => @finish_of_memory failed rfl hon duration⟩

/-- A declaration without a name, of a session that started: its round fails, and to finish the
session drops what was stripped before. -/
theorem process_whole_or_part_of_nameless :
    let memory : Memory := { resources := [("a.Port", "a.Former\n")] }
    let former : Declaration := { name := some "a.Former" }
    let batch : Batch := ⟨[former, { name := none }], none, true⟩
    ∃ started, start (new .type ⟨toolName, []⟩ memory) = .ok () started ∧
      started.finished = false ∧ started.options.disabled = false ∧
      ∃ failed report ended, process (fun _ => 0) batch started =
          .error (.missing "provider") failed ∧
        finish 0 failed = .ok report ended ∧
        failed.bench.storage.Leaves failed.bench.registry ended.bench.storage := by
  intro memory former batch
  have hon : (⟨toolName, []⟩ : Options).disabled = false := by decide
  obtain ⟨told, hstart, -⟩ := start_new .type hon memory.offers
  refine ⟨_, hstart, rfl, hon, ?_⟩
  let opened := Registry.opened memory.listing? memory.names
  have hround := process_whole_or_part (fun _ => 0)
    ⟨.type, ⟨toolName, []⟩, ⟨opened, memory, told⟩, 0, false⟩ batch rfl hon
  have hmissing : batch.fault? .type = some (.missing "provider") := by decide
  split at hround
  · exact absurd (hmissing.symm.trans hround.1) (Option.some_ne_none _)
  · rename_i fault failed hrun
    obtain ⟨hfault, -, -, -, -, -, hfinish⟩ := hround
    obtain rfl := Option.some.inj (hmissing.symm.trans hfault)
    obtain ⟨report, ended, hended, -, hleaves⟩ := hfinish 0
    exact ⟨failed, report, ended, hrun, hended, hleaves⟩

/-- **Part of a round is flushed.** Over a listing of one provider, a round that strips it and then
meets a declaration without a name fails; to finish the session deletes the listing. A round that
strips it, registers another one and then meets a missing target fails too; to finish the session
writes the other one. -/
theorem part_of_round_is_flushed :
    let memory : Memory := { resources := [("a.Port", "a.Former\n")] }
    let former : Declaration := { name := some "a.Former" }
    let adapter : Declaration :=
      { name := some "a.Adapter", markers := [("type_provider_for", [some "a.Port", none])] }
    ∃ started, start (new .type ⟨toolName, []⟩ memory) = .ok () started ∧
      (∃ failed report ended,
        process (fun _ => 0) ⟨[former, { name := none }], none, false⟩ started =
          .error (.missing "provider") failed ∧
        failed.bench.storage.resources = memory.resources ∧
        finish 0 failed = .ok report ended ∧ ended.bench.storage.resources = []) ∧
      ∃ failed report ended,
        process (fun _ => 0) ⟨[former, adapter], none, false⟩ started =
          .error (.missing "name") failed ∧
        failed.bench.storage.resources = memory.resources ∧
        finish 0 failed = .ok report ended ∧
        ended.bench.storage.resources =
          [("a.Port", "# Generated by provreg (0.3.0)\na.Adapter\n")] := by
  intro memory former adapter
  refine ⟨_, rfl, ⟨_, _, _, rfl, rfl, rfl, ?_⟩, ⟨_, _, _, rfl, rfl, rfl, ?_⟩⟩
  · decide +kernel
  · decide +kernel

end Session

end ProviderRegistry
