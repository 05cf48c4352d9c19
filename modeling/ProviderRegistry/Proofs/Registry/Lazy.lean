import ProviderRegistry.Proofs.Registry.Eager
import ProviderRegistry.Storage.Memory

/-!
# Lazy loading cannot be told from eager loading

The operations on a registry, done one after the other on a workbench whose storage has fixed texts
(`Workbench.attemptAll`); one that fails keeps what it did before, and the next one is done all the
same. Each leaves the registry that `Registry.perform` describes and has the storage read the name
that it asks for, if that is not there yet (`Work.leaves_work`). So the registry is at every moment
what an eager store of the texts would be, seen through the names that were asked for
(`Workbench.lazy_refines_eager`).

That a name is read only once is seen on an **overheard** storage, which tells of each reading.
-/

namespace ProviderRegistry

/-! ### Work that may fail -/

namespace Work

variable {σ α β : Type} {storage : σ} {before between after : Registry}
  {diagnosed diagnosed' : Diagnostics}

/-- The workbench after some work, whether it came to an end or failed. -/
def left (work : Work σ α) (bench : Workbench σ) : Workbench σ :=
  match work bench with
  | .ok _ done | .error _ done => done

/-- Work **leaves** a registry when it ends or fails with it, from every workbench with this
storage and registry, leaves the storage alone and adds these diagnostics to what was told. -/
def Leaves (work : Work σ α) (storage : σ) (before after : Registry) (diagnosed : Diagnostics) :
    Prop :=
  ∀ told, ∃ more, work.left ⟨before, storage, told⟩ = ⟨after, storage, told ++ more⟩ ∧
    more.filterMap Event.diagnosis? = diagnosed

theorem Settles.leaves {work : Work σ α} {value : α}
    (h : work.Settles storage before value after diagnosed) :
    work.Leaves storage before after diagnosed := by
  intro told
  obtain ⟨more, hrun, hmore⟩ := h told
  exact ⟨more, by rw [left, hrun], hmore⟩

/-- Work that fails at once leaves everything as it is. -/
theorem leaves_of_error {work : Work σ α} {fault : Fault}
    (h : ∀ told, work ⟨before, storage, told⟩ = .error fault ⟨before, storage, told⟩) :
    work.Leaves storage before before [] :=
  fun told => ⟨[], by rw [left, h told, List.append_nil], rfl⟩

theorem Settles.bind_leaves {work : Work σ α} {k : α → Work σ β} {value : α}
    (h : work.Settles storage before value between diagnosed)
    (hk : (k value).Leaves storage between after diagnosed') :
    (work >>= k).Leaves storage before after (diagnosed ++ diagnosed') := by
  intro told
  obtain ⟨more, hrun, hmore⟩ := h told
  obtain ⟨more', hleft, hmore'⟩ := hk (told ++ more)
  refine ⟨more ++ more', ?_, by rw [List.filterMap_append, hmore, hmore']⟩
  rw [left, bind_of_ok hrun, ← left, hleft, List.append_assoc]

/-- What is done with the value of work does not matter to what the work leaves. -/
theorem left_bind_pure (work : Work σ α) (f : α → β) (bench : Workbench σ) :
    (work >>= fun value => pure (f value)).left bench = work.left bench := by
  rw [left, left, bind_apply]
  cases work bench <;> rfl

theorem Leaves.bind_pure {work : Work σ α} (h : work.Leaves storage before after diagnosed)
    (f : α → β) :
    (work >>= fun value => pure (f value)).Leaves storage before after diagnosed := by
  intro told
  rw [left_bind_pure]
  exact h told

/-- Entries are remembered unless some are already. -/
theorem cache_apply (bench : Workbench σ) :
    (cache : Work σ Unit) bench =
      match bench.registry.snapshot with
      | none => .ok ()
        { bench with
          registry := { bench.registry with snapshot := some bench.registry.entries } }
      | some _ => .error .snapshotTaken bench := by
  cases hsnapshot : bench.registry.snapshot with
  | none =>
    simp only [cache, registry, bind_apply, get_apply, pure_apply, Registry.cache,
      Registry.isCached, hsnapshot]
    rfl
  | some entries =>
    simp only [cache, registry, bind_apply, get_apply, pure_apply, Registry.cache,
      Registry.isCached, hsnapshot]
    rfl

theorem leaves_cache (text : String → Option String) (registry : Registry) :
    (cache : Work σ Unit).Leaves storage registry (registry.perform text .cache) [] := by
  intro told
  refine ⟨[], ?_, rfl⟩
  obtain ⟨entries, snapshot, removed, distinct⟩ := registry
  rw [left, cache_apply, List.append_nil]
  cases snapshot <;> rfl

end Work

/-! ### Operations on a workbench -/

section Operations

variable {σ : Type} [Storage σ] {storage : σ} {text : String → Option String} {registry : Registry}

/-- The work that an operation is. -/
def Operation.work : Operation → Work σ Unit
  | .get name => do discard <| Work.entry name
  | .add name provider => Work.add name provider
  | .removeFrom name provider => do discard <| Work.removeFrom name provider
  | .load name text => Work.load name text
  | .remove provider => Work.remove provider
  | .cache => Work.cache

namespace Workbench

/-- The workbench after an operation was tried. -/
def attempt (bench : Workbench σ) (op : Operation) : Workbench σ := op.work.left bench

/-- The workbench after some operations were tried one after the other. -/
def attemptAll (bench : Workbench σ) (ops : List Operation) : Workbench σ :=
  ops.foldl attempt bench

end Workbench

/-- The diagnostics that a storage tells when it is asked for a name. -/
def Storage.diagnosed (storage : σ) (name : String) : Diagnostics :=
  (Storage.listing storage name).told.filterMap Event.diagnosis?

theorem Registry.flatMap_loaded {op : Operation} {name : String} (h : op.asked = some name)
    (f : String → Diagnostics) :
    (registry.loaded op).flatMap f = if name ∈ registry.names then [] else f name := by
  rw [Registry.loaded, h, Option.toList_some, List.filter_singleton]
  by_cases hname : name ∈ registry.names
  · simp [hname]
  · simp [hname]

namespace Work

theorem leaves_changeEntry {name : String}
    (h : name ∉ registry.names → (Storage.listing storage name).outcome = .ok (text name))
    {f : Entry → Except Fault (Entry × List Event)} (hf : Entry.Quiet f) :
    (changeEntry (some name) f).Leaves storage registry (registry.change text name f)
      (if name ∈ registry.names then [] else Storage.diagnosed storage name) := by
  cases hchange : f (registry.entryOf text name) with
  | ok made =>
    obtain ⟨new, told⟩ := made
    obtain ⟨hname, htold⟩ := hf _ _ _ hchange
    rw [Registry.name_entryOf] at hname
    rw [Registry.change_of_ok hchange]
    exact (settles_changeEntry_telling h hchange hname htold).leaves
  | error fault =>
    rw [Registry.change_of_error hchange, ← List.append_nil (ite _ _ _)]
    refine (settles_entry_telling h).bind_leaves ?_
    rw [hchange]
    exact leaves_of_error fun _ => rfl

/-- **An operation** leaves the registry that it is to leave, and has the storage read just the
name that it loads. -/
theorem leaves_work {registry : Registry} {op : Operation}
    (h : ∀ name, op.asked = some name → name ∉ registry.names →
      (Storage.listing storage name).outcome = .ok (text name)) :
    op.work.Leaves storage registry (registry.perform text op)
      ((registry.loaded op).flatMap (Storage.diagnosed storage)) := by
  cases op with
  | get name =>
    cases name with
    | none => exact leaves_of_error fun _ => rfl
    | some name =>
      rw [Registry.flatMap_loaded rfl]
      exact (settles_entry_telling (h name rfl)).leaves.bind_pure _
  | add name provider =>
    cases name with
    | none => exact leaves_of_error fun _ => rfl
    | some name =>
      rw [Registry.flatMap_loaded rfl]
      exact (leaves_changeEntry (h name rfl) (Entry.quiet_add provider)).bind_pure _
  | removeFrom name provider =>
    cases name with
    | none => exact leaves_of_error fun _ => rfl
    | some name =>
      rw [Registry.flatMap_loaded rfl]
      have hleaves := leaves_changeEntry (h name rfl) (Entry.quiet_remove provider)
      exact (hleaves.bind_pure _).bind_pure _
  | load name content =>
    cases name with
    | none => exact leaves_of_error fun _ => rfl
    | some name =>
      rw [Registry.flatMap_loaded rfl]
      exact (leaves_changeEntry (h name rfl) (Entry.quiet_load content)).bind_pure _
  | remove provider =>
    cases provider with
    | none => exact leaves_of_error fun _ => rfl
    | some provider => exact (settles_remove provider).leaves
  | cache => exact leaves_cache text registry

end Work

namespace Workbench

/-- **Some operations** leave the registry that they are to leave, and have the storage read just
the names that they load. -/
theorem attemptAll_eq (h : ∀ name, (Storage.listing storage name).outcome = .ok (text name))
    (registry : Registry) (told : List Event) (ops : List Operation) :
    ∃ more names, attemptAll ⟨registry, storage, told⟩ ops =
        ⟨registry.performAll text ops, storage, told ++ more⟩ ∧
      (registry.performAll text ops).names = registry.names ++ names ∧
      more.filterMap Event.diagnosis? = names.flatMap (Storage.diagnosed storage) := by
  induction ops generalizing registry told with
  | nil =>
    exact ⟨[], [], by rw [List.append_nil]; rfl, (List.append_nil _).symm, rfl⟩
  | cons op ops ih =>
    obtain ⟨more, hattempt, hmore⟩ := Work.leaves_work (fun name _ _ => h name) told
    obtain ⟨more', names, hrest, hnames, hmore'⟩ := ih (registry.perform text op) (told ++ more)
    refine ⟨more ++ more', registry.loaded op ++ names, ?_, ?_, ?_⟩
    · rw [attemptAll, List.foldl_cons, attempt, hattempt, ← attemptAll, hrest, List.append_assoc]
      rfl
    · rw [← List.append_assoc, ← Registry.names_perform]
      exact hnames
    · rw [List.filterMap_append, hmore, hmore', List.flatMap_append]

theorem registry_attemptAll
    (h : ∀ name, (Storage.listing storage name).outcome = .ok (text name)) (ops : List Operation) :
    ((new storage).attemptAll ops).registry = Registry.empty.performAll text ops := by
  obtain ⟨more, names, hattempt, -, -⟩ := attemptAll_eq h Registry.empty [] ops
  rw [new, hattempt]

end Workbench

end Operations

/-! ### Overheard storages -/

/-- A storage that is **overheard**: it tells of each name whose text is read, and nothing else. -/
structure Overheard (σ : Type) where
  storage : σ

namespace Overheard

variable {σ : Type} [Storage σ]

/-- What is told when the text of a name is read. -/
def reading (name : String) : Diagnostic where
  severity := .note
  message := "read"
  declaration := name

/-- The names whose texts were read, in the order in which that was told. -/
def readings (told : List Event) : List String :=
  (told.filterMap Event.diagnosis?).map Diagnostic.declaration

instance : Storage (Overheard σ) where
  names overheard := .silent (Storage.names overheard.storage).outcome
  listing overheard name :=
    ⟨[.diagnosed (reading name)], (Storage.listing overheard.storage name).outcome⟩
  write overheard name content :=
    let (storage, answer) := Storage.write overheard.storage name content
    (⟨storage⟩, .silent answer.outcome)
  delete overheard :=
    let (storage, answer) := Storage.delete overheard.storage
    (⟨storage⟩, .silent answer.outcome)
  keepLog overheard text :=
    let (storage, answer) := Storage.keepLog overheard.storage text
    (⟨storage⟩, .silent answer.outcome)

theorem readings_of_diagnosed {storage : σ} {told : List Event} {names : List String}
    (h : told.filterMap Event.diagnosis? =
      names.flatMap (Storage.diagnosed (⟨storage⟩ : Overheard σ))) :
    readings told = names := by
  have hreading : ∀ name, Storage.diagnosed (⟨storage⟩ : Overheard σ) name = [reading name] :=
    fun _ => rfl
  rw [readings, h, List.map_flatMap]
  simp [hreading, reading]

end Overheard

namespace Workbench

variable {σ : Type} [Storage σ] {storage : σ} {text : String → Option String}

/-- Operations that add nothing leave the same entries in any order, whatever is done before and
after them. -/
theorem mem_entries_attemptAll_perm
    (h : ∀ name, (Storage.listing storage name).outcome = .ok (text name))
    (ops : List Operation) {more more' : List Operation} (hperm : more.Perm more')
    (hmore : ∀ op ∈ more, op.adds = false) (rest : List Operation) (entry : Entry) :
    entry ∈ ((new storage).attemptAll (ops ++ more ++ rest)).registry.entries ↔
      entry ∈ ((new storage).attemptAll (ops ++ more' ++ rest)).registry.entries := by
  have hall : (ops ++ more ++ rest).Perm (ops ++ more' ++ rest) :=
    (hperm.append_left ops).append_right rest
  have hnames : ∀ name,
      name ∈ (Registry.empty.performAll text (ops ++ more ++ rest)).names ↔
        name ∈ (Registry.empty.performAll text (ops ++ more' ++ rest)).names := by
    intro name
    rw [Registry.names_performAll_empty, Registry.names_performAll_empty, List.mem_eraseDups,
      List.mem_eraseDups]
    exact (hall.filterMap Operation.asked).mem_iff
  have hshown : Registry.shown text (Registry.empty.performAll text (ops ++ more ++ rest)) =
      Registry.shown text (Registry.empty.performAll text (ops ++ more' ++ rest)) := by
    rw [Registry.shown_performAll, Registry.shown_performAll, EagerStore.run_append,
      EagerStore.run_append, EagerStore.run_append, EagerStore.run_append,
      EagerStore.run_perm hperm hmore]
  rw [registry_attemptAll h, registry_attemptAll h, Registry.mem_entries_iff_shown text,
    Registry.mem_entries_iff_shown text, hnames, hshown]

/-- **A registry that loads lazily refines an eager store.** Over fixed texts, after any
operations, failing ones included, each entry holds what an eager store of the texts holds for its
name; the names are those that were asked for, in the order in which that happened first, and none
is ever lost; the text of each is read once and that of no other name ever. Operations that add
nothing may change places. -/
theorem lazy_refines_eager
    (h : ∀ name, (Storage.listing storage name).outcome = .ok (text name)) (ops : List Operation) :
    let registry := ((new storage).attemptAll ops).registry
    let overheard := (new (Overheard.mk storage)).attemptAll ops
    (∀ entry ∈ registry.entries,
      entry.providers = (EagerStore.ofTexts text).run ops entry.name) ∧
    registry.names = (ops.filterMap Operation.asked).eraseDups ∧
    (∀ more, registry.names <+: ((new storage).attemptAll (ops ++ more)).registry.names) ∧
    (overheard.registry = registry ∧ Overheard.readings overheard.told = registry.names ∧
      (Overheard.readings overheard.told).Nodup) ∧
    (∀ more more' rest : List Operation, more.Perm more' → (∀ op ∈ more, op.adds = false) →
      ∀ entry, entry ∈ ((new storage).attemptAll (ops ++ more ++ rest)).registry.entries ↔
        entry ∈ ((new storage).attemptAll (ops ++ more' ++ rest)).registry.entries) := by
  intro registry overheard
  have hregistry : registry = Registry.empty.performAll text ops := registry_attemptAll h ops
  -- the same operations over the overheard storage come to the same registry
  have hstored : ∀ name,
      (Storage.listing (Overheard.mk storage) name).outcome = .ok (text name) := h
  obtain ⟨told, names, hattempt, hnames, htold⟩ := attemptAll_eq hstored Registry.empty [] ops
  have hoverheard : overheard = ⟨registry, ⟨storage⟩, told⟩ := hregistry ▸ hattempt
  have hread : Overheard.readings told = registry.names := by
    rw [Overheard.readings_of_diagnosed htold, hregistry]
    exact hnames.symm
  refine ⟨fun entry hentry => ?_, ?_, fun more => ?_, ⟨?_, ?_, ?_⟩,
    fun more more' rest hperm hmore =>
    mem_entries_attemptAll_perm h ops hperm hmore rest⟩
  · rw [hregistry, Registry.mem_entries_iff_shown text] at hentry
    rw [hentry.2, Registry.shown_performAll, Registry.shown_empty]
  · rw [hregistry, Registry.names_performAll_empty]
  · rw [hregistry, registry_attemptAll h, Registry.performAll_append]
    exact Registry.names_prefix_performAll _ more
  · rw [hoverheard]
  · rw [hoverheard, hread]
  · rw [hoverheard, hread]
    exact registry.distinct

/-- A provider that is removed before its name is loaded is not held afterwards, as if it had been
removed later; of the two names that were read, one was asked for by an operation that failed. -/
theorem lazy_refines_eager_of_late_load :
    let storage : Memory := { resources := [("a.Port", "x.A\ny.B\n")] }
    let early : List Operation := [.remove (some "x.A"), .get (some "a.Port")]
    let late : List Operation := [.get (some "a.Port"), .remove (some "x.A")]
    let ops : List Operation := [.add (some "b.Port") none, .cache, .cache]
    let registry := ((new storage).attemptAll (ops ++ early)).registry
    (∀ name, (Storage.listing storage name).outcome = .ok (storage.listing? name)) ∧
      registry.names = ["b.Port", "a.Port"] ∧
      Overheard.readings ((new (Overheard.mk storage)).attemptAll (ops ++ early)).told =
        ["b.Port", "a.Port"] ∧
      (∀ entry ∈ registry.entries, entry.name = "a.Port" → entry.providers.toList = ["y.B"]) ∧
      ∀ entry,
        entry ∈ ((new storage).attemptAll (ops ++ early ++ [])).registry.entries ↔
          entry ∈ ((new storage).attemptAll (ops ++ late ++ [])).registry.entries := by
  intro storage early late ops registry
  have h : ∀ name, (Storage.listing storage name).outcome = .ok (storage.listing? name) :=
    fun _ => rfl
  obtain ⟨hentries, hnames, -, ⟨-, hread, -⟩, -⟩ := lazy_refines_eager h (ops ++ early)
  obtain ⟨-, -, -, -, hperm⟩ := lazy_refines_eager h ops
  have hasked : registry.names = ["b.Port", "a.Port"] := by
    rw [hnames]
    decide
  refine ⟨h, hasked, hread.trans hasked, fun entry hentry hname => ?_,
    hperm early late [] (List.Perm.swap ..) (by decide)⟩
  rw [hentries entry hentry, hname]
  decide

end Workbench

end ProviderRegistry
