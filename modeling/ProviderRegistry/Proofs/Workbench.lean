import ProviderRegistry.Proofs.Computation
import ProviderRegistry.Proofs.Registry.View
import ProviderRegistry.Workbench

/-!
# What work does to a workbench

Work that the storage does not fail **settles**: it comes to an end with a value and a registry,
leaves the storage as it is, and tells something more (`Work.Settles`). What was told before never
matters to it, and of what it tells only the diagnostics are kept count of. Loading a name, giving
it a provider and removing a provider settle on the registries that `Registry.demand`,
`Registry.register` and `Registry.remove` describe, over every storage whose texts can be read
(`Storage.Offers`).
-/

namespace ProviderRegistry

/-! ### What a storage answers -/

/-- The diagnostic that an event carries. -/
def Event.diagnosis? : Event → Option Diagnostic
  | .diagnosed diagnostic => some diagnostic
  | _ => none

/-- An answer **gives** a value when that is what comes out, and no diagnostic is told
meanwhile. -/
def Answer.Gives {α : Type} (answer : Answer α) (value : α) : Prop :=
  answer.outcome = .ok value ∧ answer.told.filterMap Event.diagnosis? = []

theorem Answer.gives_silent {α : Type} (value : α) : (Answer.silent (.ok value)).Gives value :=
  ⟨rfl, rfl⟩

/-- A storage **offers** names and texts when it gives them to everybody who asks. -/
structure Storage.Offers {σ : Type} [Storage σ] (storage : σ) (names : List String)
    (text : String → Option String) : Prop where
  names : (Storage.names storage).Gives names
  listing : ∀ name, (Storage.listing storage name).Gives (text name)

namespace Work

variable {σ α β : Type} {storage : σ} {before between after : Registry}
  {diagnosed diagnosed' : Diagnostics}

/-- Work **settles** on a value and a registry when it comes to an end with them from every
workbench with this storage and registry, leaves the storage alone and adds to what was told, these
diagnostics among it. -/
def Settles (work : Work σ α) (storage : σ) (before : Registry) (value : α) (after : Registry)
    (diagnosed : Diagnostics) : Prop :=
  ∀ told, ∃ more, work ⟨before, storage, told⟩ = .ok value ⟨after, storage, told ++ more⟩ ∧
    more.filterMap Event.diagnosis? = diagnosed

/-! ### Putting work together -/

/-- What the storage is let do reaches the workbench, and then its answer is taken. -/
theorem store_apply (step : σ → σ × Answer α) (bench : Workbench σ) :
    store step bench = ofExcept (step bench.storage).2.outcome
      ⟨bench.registry, (step bench.storage).1, bench.told ++ (step bench.storage).2.told⟩ := rfl

/-- Work with the storage that comes to an end leaves what the storage came to. -/
theorem storage_of_store_eq_ok {step : σ → σ × Answer α} {bench done : Workbench σ} {value : α}
    (h : store step bench = .ok value done) : done.storage = (step bench.storage).1 := by
  rw [store_apply] at h
  cases houtcome : (step bench.storage).2.outcome with
  | ok answered =>
    rw [houtcome] at h
    obtain ⟨-, rfl⟩ := EStateM.Result.ok.inj h
    rfl
  | error fault =>
    rw [houtcome] at h
    cases h

/-- Work with the storage fails only where the storage gives no answer. -/
theorem outcome_of_store_eq_error {step : σ → σ × Answer α} {bench failed : Workbench σ}
    {fault : Fault} (h : store step bench = .error fault failed) :
    (step bench.storage).2.outcome = .error fault := by
  rw [store_apply] at h
  cases houtcome : (step bench.storage).2.outcome with
  | ok answered =>
    rw [houtcome] at h
    cases h
  | error cause =>
    rw [houtcome] at h
    obtain ⟨rfl, -⟩ := EStateM.Result.error.inj h
    rfl

theorem settles_pure (value : α) :
    (pure value : Work σ α).Settles storage before value before [] :=
  fun told => ⟨[], by rw [List.append_nil]; rfl, rfl⟩

theorem Settles.bind {work : Work σ α} {k : α → Work σ β} {value : α} {value' : β}
    (h : work.Settles storage before value between diagnosed)
    (hk : (k value).Settles storage between value' after diagnosed') :
    (work >>= k).Settles storage before value' after (diagnosed ++ diagnosed') := by
  intro told
  obtain ⟨more, hrun, hmore⟩ := h told
  obtain ⟨more', hrun', hmore'⟩ := hk (told ++ more)
  refine ⟨more ++ more', ?_, by rw [List.filterMap_append, hmore, hmore']⟩
  rw [bind_of_ok hrun, hrun', List.append_assoc]

/-- `Settles.bind` where the first work tells no diagnostic. -/
theorem Settles.then {work : Work σ α} {k : α → Work σ β} {value : α} {value' : β}
    (h : work.Settles storage before value between [])
    (hk : (k value).Settles storage between value' after diagnosed) :
    (work >>= k).Settles storage before value' after diagnosed :=
  h.bind hk

/-- `Settles.bind` where the second work tells no diagnostic. -/
theorem Settles.last {work : Work σ α} {k : α → Work σ β} {value : α} {value' : β}
    (h : work.Settles storage before value between diagnosed)
    (hk : (k value).Settles storage between value' after []) :
    (work >>= k).Settles storage before value' after diagnosed := by
  have hboth := h.bind hk
  rwa [List.append_nil] at hboth

theorem Settles.get {k : Workbench σ → Work σ α} {value : α}
    (h : ∀ told, (k ⟨before, storage, told⟩).Settles storage before value after diagnosed) :
    (get >>= k : Work σ α).Settles storage before value after diagnosed :=
  fun told => h told told

theorem settles_tell (events : List Event) :
    (tell events : Work σ Unit).Settles storage before () before
      (events.filterMap Event.diagnosis?) :=
  fun _ => ⟨events, rfl, rfl⟩

/-- Telling notes and warnings alone. -/
theorem settles_tell_of_eq_nil {events : List Event}
    (h : events.filterMap Event.diagnosis? = []) :
    (tell events : Work σ Unit).Settles storage before () before [] :=
  h ▸ settles_tell events

theorem settles_ofExcept (value : α) :
    (ofExcept (.ok value) : Work σ α).Settles storage before value before [] :=
  settles_pure value

theorem settles_registry : (registry : Work σ Registry).Settles storage before before before [] :=
  fun told => ⟨[], by rw [List.append_nil]; rfl, rfl⟩

theorem settles_setRegistry :
    (setRegistry after : Work σ Unit).Settles storage before () after [] :=
  fun told => ⟨[], by rw [List.append_nil]; rfl, rfl⟩

/-- Taking an answer tells what the answer tells. -/
theorem settles_take_telling {answer : Answer α} {value : α} (h : answer.outcome = .ok value) :
    (take answer : Work σ α).Settles storage before value before
      (answer.told.filterMap Event.diagnosis?) := by
  rw [take, h]
  exact (settles_tell answer.told).last (settles_ofExcept value)

theorem settles_take {answer : Answer α} {value : α} (h : answer.Gives value) :
    (take answer : Work σ α).Settles storage before value before [] :=
  h.2 ▸ settles_take_telling h.1

/-- Work for each of some things in turn, whose value depends on the thing alone. -/
theorem settles_mapM {f : α → Work σ β} {v : α → β} {g : Registry → α → Registry}
    {d : α → Diagnostics} {as : List α}
    (h : ∀ a ∈ as, ∀ registry, (f a).Settles storage registry (v a) (g registry a) (d a)) :
    (as.mapM f).Settles storage before (as.map v) (as.foldl g before) (as.flatMap d) := by
  -- the rest starts from the registry that the first thing leaves
  induction as generalizing before with
  | nil => exact settles_pure []
  | cons a as ih =>
    rw [List.mapM_cons, List.flatMap_cons]
    refine (h a List.mem_cons_self before).bind ?_
    exact (ih fun b hb => h b (List.mem_cons_of_mem a hb)).last (settles_pure _)

theorem settles_forM {f : α → Work σ Unit} {g : Registry → α → Registry} {as : List α}
    (h : ∀ a ∈ as, ∀ registry, (f a).Settles storage registry () (g registry a) []) :
    (as.forM f).Settles storage before () (as.foldl g before) [] := by
  induction as generalizing before with
  | nil => exact settles_pure ()
  | cons a as ih =>
    change (f a >>= fun _ => as.forM f).Settles storage before () _ []
    exact (h a List.mem_cons_self before).then
      (ih fun b hb => h b (List.mem_cons_of_mem a hb))

/-! ### Entries -/

theorem diagnosis?_loadNotes (name content : String) :
    (Entry.loadNotes name content).filterMap Event.diagnosis? = [] := by
  simp [Entry.loadNotes, Entry.adding, Event.logged, Event.diagnosis?]

theorem diagnosis?_removalNotes (entry : Entry) (provider : String) :
    (entry.removalNotes provider).filterMap Event.diagnosis? = [] := by
  rw [Entry.removalNotes]
  split <;> rfl

theorem diagnosis?_removeAll (entry : Entry) (providers : List String) :
    (entry.removeAll providers).2.filterMap Event.diagnosis? = [] := by
  rw [Entry.removeAll]
  refine List.foldlRecOn (motive := fun made : Entry × List Event =>
    made.2.filterMap Event.diagnosis? = []) providers _ rfl fun made htold provider _ => ?_
  rw [List.filterMap_append, htold, diagnosis?_removalNotes, List.append_nil]

theorem diagnosis?_initialNotes (registry : Registry) (name : String) (content : Option String) :
    (registry.initialNotes name content).filterMap Event.diagnosis? = [] := by
  cases content with
  | none => rfl
  | some content =>
    rw [Registry.initialNotes, List.filterMap_append, diagnosis?_loadNotes, diagnosis?_removeAll,
      List.append_nil]

/-- A provider is removed from every entry, now and later. -/
theorem settles_remove (provider : String) :
    (remove (some provider) : Work σ Unit).Settles storage before () (before.remove provider)
      [] := by
  refine (settles_ofExcept provider).then (settles_registry.then ?_)
  have hnotes : (before.removeNotes provider).filterMap Event.diagnosis? = [] := by
    rw [List.filterMap_eq_nil_iff]
    intro event hevent
    rcases List.mem_cons.mp hevent with rfl | hevent
    · rfl
    · obtain ⟨entry, -, hevent⟩ := List.mem_flatMap.mp hevent
      exact List.filterMap_eq_nil_iff.mp (diagnosis?_removalNotes entry provider) event hevent
  exact (settles_tell_of_eq_nil hnotes).then settles_setRegistry

section Entries

variable [Storage σ] {names : List String} {text : String → Option String}

/-- Asking for a name loads its entry unless it is there, and only then reads its text and tells
what the storage tells of it. -/
theorem settles_entry_telling {name : String}
    (h : name ∉ before.names → (Storage.listing storage name).outcome = .ok (text name)) :
    (entry (some name)).Settles storage before (before.entryOf text name) (before.demand text name)
      (if name ∈ before.names then []
        else (Storage.listing storage name).told.filterMap Event.diagnosis?) := by
  refine (settles_ofExcept name).then (settles_registry.then ?_)
  cases hfind : before.find? name with
  | some found =>
    have hmem : name ∈ before.names := by
      obtain ⟨hmem, rfl⟩ := Registry.find?_eq_some_iff.mp hfind
      exact List.mem_map_of_mem hmem
    rw [Registry.entryOf, hfind, Option.getD_some, Registry.demand_of_mem hmem, if_pos hmem]
    exact settles_pure found
  | none =>
    have hnew : name ∉ before.names := Registry.find?_eq_none_iff.mp hfind
    rw [Registry.entryOf, hfind, Option.getD_none, Registry.demand, if_neg hnew]
    refine (settles_tell [Entry.created name]).then (Settles.get fun _ => ?_)
    refine (settles_take_telling (h hnew)).last (settles_registry.then ?_)
    exact (settles_tell_of_eq_nil (diagnosis?_initialNotes before name (text name))).then
      (settles_setRegistry.then (settles_pure _))

/-- A name whose text cannot be read gets no entry. -/
theorem entry_of_unreadable {name : String} {fault : Fault} (hnew : name ∉ before.names)
    (h : (Storage.listing storage name).outcome = .error fault) (told : List Event) :
    ∃ more, entry (some name) ⟨before, storage, told⟩ =
      .error fault ⟨before, storage, told ++ more⟩ := by
  have hfind : before.find? name = none := Registry.find?_eq_none_iff.mpr hnew
  refine ⟨[Entry.created name] ++ (Storage.listing storage name).told, ?_⟩
  rw [← List.append_assoc]
  simp only [entry, required, ofExcept, registry, bind_apply, pure_apply, get_apply, hfind,
    materialize, tell, modify_apply, take, h]
  rfl

/-- Asking for a name loads its entry unless it is there. -/
theorem settles_entry_of_gives {name : String}
    (h : (Storage.listing storage name).Gives (text name)) :
    (entry (some name)).Settles storage before (before.entryOf text name) (before.demand text name)
      [] := by
  have hentry := @settles_entry_telling σ storage before _ text name fun _ => h.1
  rwa [h.2, ite_self] at hentry

/-- A change of an entry reaches the registry, whose entry is loaded before. -/
theorem settles_changeEntry_telling {name : String}
    (h : name ∉ before.names → (Storage.listing storage name).outcome = .ok (text name))
    {change : Entry → Except Fault (Entry × List Event)} {new : Entry} {told : List Event}
    (hchange : change (before.entryOf text name) = .ok (new, told)) (hname : new.name = name)
    (htold : told.filterMap Event.diagnosis? = []) :
    (changeEntry (some name) change).Settles storage before (before.entryOf text name)
      (before.update text new)
      (if name ∈ before.names then []
        else (Storage.listing storage name).told.filterMap Event.diagnosis?) := by
  refine (settles_entry_telling h).last ?_
  rw [hchange]
  refine (settles_ofExcept (new, told)).then ((settles_tell_of_eq_nil htold).then ?_)
  refine settles_registry.then ?_
  rw [Registry.update, hname]
  exact settles_setRegistry.then (settles_pure _)

/-- A provider that has a name is registered. -/
theorem settles_add_telling {name provider : String}
    (h : name ∉ before.names → (Storage.listing storage name).outcome = .ok (text name))
    (hprovider : provider ≠ "") :
    (add (some name) (some provider)).Settles storage before ()
    (before.register text name provider)
      (if name ∈ before.names then []
        else (Storage.listing storage name).told.filterMap Event.diagnosis?) := by
  have hchange : (before.entryOf text name).add (some provider) =
      .ok ((before.entryOf text name).insert provider, [Entry.adding name provider]) := by
    rw [Entry.add, Registry.name_entryOf]
    simp [hprovider]
  exact (settles_changeEntry_telling h hchange (by simp) rfl).last (settles_pure ())

theorem settles_add (h : Storage.Offers storage names text) (name : String) {provider : String}
    (hprovider : provider ≠ "") :
    (add (some name) (some provider)).Settles storage before ()
    (before.register text name provider)
      [] := by
  have hadd := @settles_add_telling σ storage before _ text name provider
    (fun _ => (h.listing name).1) hprovider
  rwa [(h.listing name).2, ite_self] at hadd

/-- To a name that cannot be read nothing is added. -/
theorem add_of_unreadable {name : String} {fault : Fault} (hnew : name ∉ before.names)
    (h : (Storage.listing storage name).outcome = .error fault) (provider : Option String)
    (told : List Event) :
    ∃ failed, add (some name) provider ⟨before, storage, told⟩ = .error fault failed := by
  obtain ⟨more, hentry⟩ := entry_of_unreadable hnew h told
  exact ⟨_, bind_of_error (bind_of_error hentry)⟩

end Entries

end Work

end ProviderRegistry
