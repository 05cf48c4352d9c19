import ProviderRegistry.Proofs.Registry.Modification
import ProviderRegistry.Proofs.Session.Interrupted

/-!
# Which listings are written

The last round of a session compares the registry as a whole with what the memory listed at the
start, and then writes either nothing or every entry that holds a provider. So whether a listing is
written depends on whether **any** entry changed (`last_round_rewrites`), and not on whether that
one did: a listing that no call touched is written anew when another one changes, and the comments
in it are lost (`unchanged_listing_is_rewritten`).

The comparison is with the start whatever was tried meanwhile, rounds that failed halfway and calls
that were refused included, for every call takes the registry to one that continues it
(`Loaded.attempt`).
-/

namespace ProviderRegistry

/-! ### Registries that go on -/

namespace Registry

variable {text : String → Option String} {registry after : Registry}

theorem continues_demand (text : String → Option String) (registry : Registry) (name : String) :
    registry.Continues (registry.demand text name) := by
  refine ⟨?_, fun entries h => by rwa [snapshot_demand]⟩
  rw [names_demand]
  exact List.prefix_append _ _

theorem continues_register (text : String → Option String) (registry : Registry)
    (name provider : String) : registry.Continues (registry.register text name provider) := by
  refine ⟨?_, fun entries h => by rwa [snapshot_register]⟩
  rw [register, update, names_replace]
  exact (continues_demand text registry _).names

theorem continues_remove (registry : Registry) (provider : String) :
    registry.Continues (registry.remove provider) := by
  refine ⟨?_, fun entries h => by rwa [snapshot_remove]⟩
  exact (names_remove registry provider).symm ▸ List.prefix_refl _

/-- What continues a registry at each step continues it in the end. -/
theorem continues_foldl {α : Type} {f : Registry → α → Registry}
    (h : ∀ (registry : Registry) (a : α), registry.Continues (f registry a)) (as : List α)
    (registry : Registry) :
    registry.Continues (as.foldl f registry) := by
  induction as generalizing registry with
  | nil => exact .refl registry
  | cons a as ih => exact (h registry a).trans (ih (f registry a))

theorem continues_turn (text : String → Option String) (registry : Registry) (turn : Turn) :
    registry.Continues (registry.turn text turn) := by
  have hstripped := continues_foldl continues_remove turn.stripped registry
  have hregistered := continues_foldl
    (fun registry (pair : String × String) => continues_register text registry pair.1 pair.2)
    turn.registered (turn.stripped.foldl remove registry)
  exact hstripped.trans hregistered

theorem AskedAtMost.continues (h : registry.AskedAtMost text after) :
    registry.Continues after := by
  rcases h with rfl | ⟨name, rfl⟩
  · exact .refl _
  · exact continues_demand text registry name

end Registry

/-! ### What changed since the start -/

/-- An entry **changed** since a memory was loaded when the memory has no listing of its name, or
one of other providers. -/
def Memory.Changed (memory : Memory) (entry : Entry) : Prop :=
  entry.name ∉ memory.names ∨ entry.providers ≠ Listing.stored (memory.listing? entry.name)

/-- **A registry is modified** just when one of its entries changed. -/
theorem Registry.isModified_iff_changed {memory : Memory} {registry : Registry}
    (h : (opened memory.listing? memory.names).Continues registry) :
    registry.isModified = true ↔ ∃ entry ∈ registry.entries, memory.Changed entry := by
  let start := opened memory.listing? memory.names
  have hsnapshot : registry.snapshot = some start.entries := h.snapshot _ rfl
  have hstart : ∀ name ∈ memory.names,
      (⟨name, Listing.stored (memory.listing? name)⟩ : Entry) ∈ start.entries := fun name hname =>
    (mem_entries_iff memory.listing?).mpr ⟨mem_names_opened.mpr hname, entryOf_opened _ name⟩
  rw [isModified_eq_true_iff hsnapshot]
  constructor
  · rintro (⟨name, hdiffer⟩ | ⟨entry, hentry, old, hold, hname, p, hp⟩)
    · -- no name of the start is lost, so this one is new
      have hnew : name ∈ registry.names ∧ name ∉ start.names := by
        have hkept : name ∈ start.names → name ∈ registry.names := fun hmem => h.names.subset hmem
        tauto
      obtain ⟨entry, hentry, rfl⟩ := List.mem_map.mp hnew.1
      exact ⟨entry, hentry, Or.inl fun hmem => hnew.2 (mem_names_opened.mpr hmem)⟩
    · refine ⟨entry, hentry, Or.inr fun hproviders => hp ?_⟩
      have hstored := ((mem_entries_iff memory.listing?).mp hold).2
      rw [entryOf_opened] at hstored
      rw [hproviders, hname, ← hstored]
  · rintro ⟨entry, hentry, hchanged⟩
    by_cases hname : entry.name ∈ memory.names
    · have hproviders := hchanged.resolve_left (not_not_intro hname)
      obtain ⟨p, hp⟩ : ∃ p, ¬ (p ∈ entry.providers ↔
          p ∈ Listing.stored (memory.listing? entry.name)) := by
        by_contra hsame
        push Not at hsame
        exact hproviders (ProviderSet.ext hsame)
      exact Or.inr ⟨entry, hentry, _, hstart _ hname, rfl, p, hp⟩
    · refine Or.inl ⟨entry.name, fun hsame => hname (mem_names_opened.mp (hsame.mp ?_))⟩
      exact List.mem_map_of_mem hentry

/-! ### What a last round makes of a memory -/

/-- **What a last round writes and leaves.** It writes the entries that hold a provider, but only
if some entry changed, and the memory may refuse some of them. A name that is not written has the
text that it had, unless the listings are deleted, which happens if some entry changed and none of
them holds a provider. -/
structure Rewrites (memory : Memory) (registry : Registry) (report : Report) (left : Memory) :
    Prop where
  written : ∀ name, name ∈ report.written ↔ (∃ entry ∈ registry.entries, memory.Changed entry) ∧
    ∃ entry ∈ registry.entries, entry.name = name ∧ (∃ p, p ∈ entry.providers) ∧
      name ∉ memory.refusedWrites
  deleted : report.deleted = true ↔ (∃ entry ∈ registry.entries, memory.Changed entry) ∧
    (∀ entry ∈ registry.entries, ∀ p, p ∉ entry.providers) ∧ memory.refusesDelete = false
  texts : ∀ entry ∈ registry.entries, entry.name ∈ report.written →
    left.listing? entry.name = some (Listing.header memory.tool ++ entry.render)
  untouched : ∀ name ∉ report.written, left.listing? name =
    if report.deleted = true ∧ Listing.isLogName name = false then none else memory.listing? name

namespace Work

variable {memory left : Memory} {registry after : Registry} {told told' : List Event}
  {options : Options} {report last : Report}

/-- Nothing is written where nothing changed. -/
theorem rewrites_of_unmodified (hreport : report.Unflushed)
    (hsame : ¬ ∃ entry ∈ registry.entries, memory.Changed entry) :
    Rewrites memory registry report memory where
  written name := by simp [hreport.written, hsame]
  deleted := by simp [hreport.deleted, hsame]
  texts entry _ hwritten := by simp [hreport.written] at hwritten
  untouched name _ := by simp [hreport.deleted]

variable (h : (Registry.opened memory.listing? memory.names).Continues registry)
  (hreport : report.Unflushed)
  (hflush : flush options report ⟨registry, memory, told⟩ = .ok last ⟨after, left, told'⟩)

include h hreport hflush

/-- Where some entry changed and none holds a provider, the listings are deleted. -/
private theorem rewrites_of_empty (hmodified : registry.isModified = true)
    (hlisted : registry.listed = []) : Rewrites memory after last left := by
  have hchanged := (Registry.isModified_iff_changed h).mp hmodified
  have hbare : ∀ entry ∈ registry.entries, ∀ p, p ∉ entry.providers := by
    intro entry hentry p hp
    have hmem : entry ∈ registry.listed := Registry.mem_listed_iff.mpr ⟨hentry, p, hp⟩
    simp [hlisted] at hmem
  rw [flush_of_empty hmodified hlisted] at hflush
  cases hflush
  refine ⟨fun name => ?written, ?deleted, fun entry _ hwritten => ?texts, fun name _ => ?untouched⟩
  case written =>
    simp only [hreport.written, List.not_mem_nil, false_iff]
    rintro ⟨-, entry, hentry, -, ⟨p, hp⟩, -⟩
    exact hbare entry hentry p hp
  case deleted => rw [and_iff_right hchanged, and_iff_right hbare, Bool.not_eq_true']
  case texts => simp [hreport.written] at hwritten
  case untouched =>
    rw [Memory.delete]
    cases memory.refusesDelete with
    | true => rfl
    | false =>
      rw [if_neg Bool.false_ne_true, Memory.listing?, Memory.lookup_filter]
      cases Listing.isLogName name <;> rfl

/-- Where some entry changed and some hold providers, these are written. -/
private theorem rewrites_of_listed (hmodified : registry.isModified = true)
    (hlisted : registry.listed ≠ []) : Rewrites memory after last left := by
  have hchanged := (Registry.isModified_iff_changed h).mp hmodified
  have hdistinct := memory.nodup_names_accepted registry
  rw [flush_of_listed hmodified hlisted] at hflush
  cases hflush
  refine ⟨fun name => ?written, ?deleted, fun entry hentry hwritten => ?texts,
    fun name hname => ?untouched⟩
  case written =>
    simp only [and_iff_right hchanged, List.mem_map, Memory.mem_accepted_iff,
      Registry.mem_listed_iff]
    constructor
    · rintro ⟨entry, ⟨⟨hentry, hp⟩, haccepted⟩, rfl⟩
      exact ⟨entry, hentry, rfl, hp, haccepted⟩
    · rintro ⟨entry, hentry, rfl, hp, haccepted⟩
      exact ⟨entry, ⟨⟨hentry, hp⟩, haccepted⟩, rfl⟩
  case deleted =>
    obtain ⟨entry, hentry⟩ := List.exists_mem_of_ne_nil _ hlisted
    obtain ⟨hmem, p, hp⟩ := Registry.mem_listed_iff.mp hentry
    refine iff_of_false (by simp [hreport.deleted]) ?_
    rintro ⟨-, hbare, -⟩
    exact hbare entry hmem p hp
  case texts =>
    -- a name has one entry, so the one that was written is this one
    obtain ⟨found, hfound, hname⟩ := List.mem_map.mp hwritten
    have hmem := (Registry.mem_listed_iff.mp (Memory.mem_accepted_iff.mp hfound).1).1
    obtain rfl : found = entry := List.inj_on_of_nodup_map registry.distinct hmem hentry hname
    rw [Memory.keepLog_eq]
    exact (Memory.keeps_putAll hdistinct hfound).lookup
  case untouched =>
    rw [if_neg (by simp [hreport.deleted]), Memory.keepLog_eq]
    exact Memory.lookup_putAll_of_notMem hname

/-- **A flush** writes every entry that holds a provider, or nothing at all. -/
theorem rewrites_of_flush : Rewrites memory after last left := by
  cases hmodified : registry.isModified with
  | false =>
    have hsame : ¬ ∃ entry ∈ registry.entries, memory.Changed entry := by
      rw [← Registry.isModified_iff_changed h, hmodified]
      exact Bool.false_ne_true
    rw [flush_of_unmodified hmodified] at hflush
    cases hflush
    exact rewrites_of_unmodified hreport hsame
  | true =>
    by_cases hlisted : registry.listed = []
    · exact rewrites_of_empty h hreport hflush hmodified hlisted
    · exact rewrites_of_listed h hreport hflush hmodified hlisted

end Work

namespace Session

/-! ### A whole life -/

variable {memory : Memory} {session after : Session Memory} {clock : ℕ → ℕ} {batch : Batch}
  {report : Report}

/-- A session that was **loaded** from a memory: its registry continues what the memory listed, or
is still empty where the session is turned off, and until the session is over the memory is as it
was. -/
structure Loaded (memory : Memory) (session : Session Memory) : Prop where
  storage : session.finished = false → session.bench.storage = memory
  idle : session.options.disabled = true → session.bench.registry = Registry.empty
  continues : session.options.disabled = false →
    (Registry.opened memory.listing? memory.names).Continues session.bench.registry

theorem exists_loaded (flavor : Flavor) (options : Options) (memory : Memory) :
    ∃ started, start (new flavor options memory) = .ok () started ∧ Loaded memory started := by
  cases hoff : options.disabled with
  | true =>
    refine ⟨_, start_new_of_disabled flavor hoff memory, fun _ => rfl, fun _ => rfl, fun hon => ?_⟩
    exact absurd (hon.symm.trans hoff) Bool.false_ne_true
  | false =>
    obtain ⟨told, hstart, -⟩ := start_new flavor hoff memory.offers
    refine ⟨_, hstart, fun _ => rfl, fun hidle => ?_, fun _ => .refl _⟩
    exact absurd (hoff.symm.trans hidle) Bool.false_ne_true

/-- **A call** takes no session from what it was loaded from, and a last round that comes to an end
writes every entry that holds a provider, or nothing at all. -/
theorem Loaded.attempt (h : Loaded memory session) (batch : Batch) :
    let call := session.attempt clock batch
    Loaded memory call.after ∧ (batch.final = true → ∀ report, call.answer = .ok report →
      Rewrites memory call.after.bench.registry report call.after.bench.storage) := by
  intro call
  cases hopen : session.finished with
  | true =>
    have hrefused := @refused_attempt Memory _ session clock hopen batch
    refine ⟨hrefused.after ▸ h, fun _ report hanswer => ?_⟩
    cases hrefused.answer.symm.trans hanswer
  | false =>
    cases hoff : session.options.disabled with
    | true =>
      have hcall := attempt_of_ok (round_of_disabled hopen hoff batch.declarations batch.annotated
        batch.final (clock session.rounds))
      rw [show call = _ from hcall]
      refine ⟨⟨fun _ => h.storage hopen, h.idle, h.continues⟩, fun _ report hanswer => ?_⟩
      cases hanswer
      rw [h.storage hopen, h.idle hoff]
      exact Work.rewrites_of_unmodified ⟨rfl, rfl, rfl, rfl⟩ (by simp [Registry.empty])
    | false =>
      obtain ⟨flavor, options, ⟨registry, storage, told⟩, number, finished⟩ := session
      subst hopen
      obtain rfl : storage = memory := h.storage rfl
      have hidle : options.disabled = true → ∀ left : Registry, left = Registry.empty := fun hon =>
        absurd (hoff.symm.trans hon) Bool.false_ne_true
      cases hfault : batch.fault? flavor with
      | some fault =>
        obtain ⟨part, after, more, -, hafter, hrun⟩ := @process_of_fault?_eq_some clock _ _ _ _
          storage _ _ _ _ hoff storage.offers hfault registry told number
        rw [show call = _ from attempt_of_error hrun]
        refine ⟨⟨fun _ => rfl, fun hon => hidle hon after, fun _ => ?_⟩,
          fun _ report hanswer => ?_⟩
        · exact (h.continues hoff).trans ((Registry.continues_turn ..).trans hafter.continues)
        · cases hanswer
      | none =>
        obtain ⟨more, hrun, -⟩ := @process_of_fault?_eq_none Memory _ clock flavor options storage
          storage.names storage.listing? registry told number batch hoff storage.offers hfault
        have hturn := (h.continues hoff).trans
          (Registry.continues_turn storage.listing? registry (batch.turn flavor))
        cases hfinal : batch.final with
        | false =>
          rw [hfinal, if_neg Bool.false_ne_true] at hrun
          rw [show call = _ from attempt_of_ok hrun]
          exact ⟨⟨fun _ => rfl, fun hon => hidle hon _, fun _ => hturn⟩,
            fun hlast => absurd hlast Bool.false_ne_true⟩
        | true =>
          obtain ⟨last, left, told', hflush, -⟩ := Work.flush_memory options
            (batch.report flavor (number + 1)) (registry.turn storage.listing? (batch.turn flavor))
            storage (told ++ more)
          rw [hfinal, if_pos rfl, hflush] at hrun
          rw [show call = _ from attempt_of_ok hrun]
          refine ⟨⟨fun hopen => absurd hopen.symm Bool.false_ne_true, fun hon => hidle hon _,
            fun _ => hturn⟩, fun _ report hanswer => ?_⟩
          cases hanswer
          exact Work.rewrites_of_flush hturn (batch.unflushed_report flavor (number + 1)) hflush

/-- **The last round writes everything or nothing.** Whatever a session over a memory was asked
for, its last round writes the entries that hold a provider just when some entry changed since the
start: also those that did not change themselves. A name that is not written keeps its text, unless
nothing is left to list and the listings are deleted. -/
theorem last_round_rewrites (flavor : Flavor) (options : Options) (memory : Memory) (clock : ℕ → ℕ)
    (batches : List Batch) :
    ∃ started, start (new flavor options memory) = .ok () started ∧
      ∀ call ∈ attempts clock started batches, call.batch.final = true →
        ∀ report, call.answer = .ok report →
          Rewrites memory call.after.bench.registry report call.after.bench.storage := by
  obtain ⟨started, hstart, hloaded⟩ := exists_loaded flavor options memory
  refine ⟨started, hstart, fun call hcall hfinal report hanswer => ?_⟩
  obtain ⟨hattempt, hbefore⟩ :=
    attempts_induction (P := Loaded memory) (fun _ batch h => (h.attempt batch).1) hloaded hcall
  rw [hattempt] at hanswer ⊢
  exact (hbefore.attempt call.batch).2 hfinal report hanswer

/-- **A listing that did not change is rewritten.** A round registers a provider under a new name.
The other listing still has its one provider at the end, but it is written with the new one, and
the comments that somebody put into it are gone. -/
theorem unchanged_listing_is_rewritten :
    let memory : Memory := { resources := [("a.Port", "# by hand\na.Kept # keep\n")] }
    let kept : Entry := ⟨"a.Port", Listing.stored (memory.listing? "a.Port")⟩
    let adapter : Declaration :=
      { name := some "b.Adapter", markers := [("type_provider_for", [some "b.Port"])] }
    ∃ started, start (new .type ⟨toolName, []⟩ memory) = .ok () started ∧ ¬ memory.Changed kept ∧
      (attempts (fun _ => 0) started [⟨[adapter], none, false⟩, .finish]).map (fun call =>
          (call.answer.toOption.map Report.written, call.after.bench.registry.find? "a.Port",
            call.after.bench.storage.listing? "a.Port")) =
        [(some [], some kept, some "# by hand\na.Kept # keep\n"),
          (some ["a.Port", "b.Port"], some kept,
            some "# Generated by provreg (0.3.0)\na.Kept\n")] := by
  intro memory kept adapter
  refine ⟨_, rfl, ?_, ?_⟩
  · rintro (hnew | hother)
    · exact hnew (by decide)
    · exact hother rfl
  · decide +kernel

end Session

end ProviderRegistry
