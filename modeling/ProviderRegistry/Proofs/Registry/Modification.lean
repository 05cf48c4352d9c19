import ProviderRegistry.Proofs.Registry.Lazy

/-!
# Whether anything changed

A registry that remembered its entries says at any later moment whether anything changed since.
What may be asked of it meanwhile is tried one operation after the other, over a storage that may
change and may fail (`Workbench.attemptEach`). An operation does to the registry what it would do
over some texts, or nothing (`Workbench.registry_attempt`), so no name is ever lost and nothing
that is done to an entry reaches what was remembered (`Registry.Continues`). The verdict is
therefore exact (`Workbench.isModified_iff_differs`): it depends on the names and on the sets of
their providers, not on how they came about.
-/

namespace ProviderRegistry

namespace Registry

variable {text : String → Option String} {registry before between after : Registry}

/-! ### Registries that continue a registry -/

/-- A registry **continues** another one when it has the names of that one, in their places, and
remembers what that one remembered. -/
structure Continues (before after : Registry) : Prop where
  names : before.names <+: after.names
  snapshot : ∀ entries, before.snapshot = some entries → after.snapshot = some entries

theorem Continues.refl (registry : Registry) : registry.Continues registry :=
  ⟨List.prefix_refl _, fun _ h => h⟩

theorem Continues.trans (h : before.Continues between) (h' : between.Continues after) :
    before.Continues after :=
  ⟨h.names.trans h'.names, fun entries hsome => h'.snapshot entries (h.snapshot entries hsome)⟩

@[simp]
theorem snapshot_change (name : String) (f : Entry → Except Fault (Entry × List Event)) :
    (registry.change text name f).snapshot = registry.snapshot := by
  cases hchange : f (registry.entryOf text name) with
  | ok made => rw [change_of_ok hchange, snapshot_update]
  | error fault => rw [change_of_error hchange, snapshot_demand]

/-- What was remembered once is never remembered anew. -/
theorem snapshot_perform {entries : List Entry} (h : registry.snapshot = some entries)
    (op : Operation) : (registry.perform text op).snapshot = some entries := by
  cases op with
  | get name =>
    cases name with
    | none => exact h
    | some name => rwa [perform, snapshot_demand]
  | add name provider =>
    cases name with
    | none => exact h
    | some name => rwa [perform, snapshot_change]
  | removeFrom name provider =>
    cases name with
    | none => exact h
    | some name => rwa [perform, snapshot_change]
  | load name content =>
    cases name with
    | none => exact h
    | some name => rwa [perform, snapshot_change]
  | remove provider =>
    cases provider with
    | none => exact h
    | some provider => rwa [perform, snapshot_remove]
  | cache => rw [perform, h, Option.getD_some]

theorem continues_perform (text : String → Option String) (registry : Registry) (op : Operation) :
    registry.Continues (registry.perform text op) := by
  refine ⟨?_, fun entries h => snapshot_perform h op⟩
  rw [names_perform]
  exact List.prefix_append _ _

/-! ### The verdict -/

/-- An entry is also one of a registry that has its name, and the same providers under that
name. -/
private theorem mem_entries_of_agree (hnames : ∀ name, name ∈ after.names → name ∈ before.names)
    (hproviders : ∀ entry ∈ after.entries, ∀ old ∈ before.entries, entry.name = old.name →
      ∀ p, p ∈ entry.providers ↔ p ∈ old.providers)
    {entry : Entry} (hentry : entry ∈ after.entries) :
    entry ∈ before.entries := by
  have hname : entry.name ∈ before.names := hnames _ (List.mem_map_of_mem hentry)
  obtain ⟨old, hold, heq⟩ := List.mem_map.mp hname
  rwa [Entry.eq_of_name_eq heq.symm (hproviders entry hentry old hold heq.symm)]

/-- **Something changed** since the entries of a registry were remembered just when there is a name
that only one of the two has, or one that does not have the same providers. -/
theorem isModified_eq_true_iff (h : after.snapshot = some before.entries) :
    after.isModified = true ↔
      (∃ name, ¬ (name ∈ after.names ↔ name ∈ before.names)) ∨
        ∃ entry ∈ after.entries, ∃ old ∈ before.entries, entry.name = old.name ∧
          ∃ p, ¬ (p ∈ entry.providers ↔ p ∈ old.providers) := by
  have hremembered : after.snapshot.getD [] = before.entries := by rw [h, Option.getD_some]
  have hfalse : after.isModified = false ↔
      ∀ entry, entry ∈ before.entries ↔ entry ∈ after.entries := by
    rw [isModified_eq_false_iff (by rw [hremembered]; exact before.distinct), hremembered]
  rw [← not_iff_not, Bool.not_eq_true, hfalse]
  push Not
  constructor
  · -- the same entries have the same names, and an entry is found under its name alone
    intro hsame
    refine ⟨fun name => ?_, fun entry hentry old hold hname p => ?_⟩
    · rw [names, names, List.mem_map, List.mem_map]
      exact exists_congr fun entry => and_congr_left fun _ => (hsame entry).symm
    · have heq : entry = old := by
        have hboth := (hsame old).mp hold
        exact List.inj_on_of_nodup_map after.distinct hentry hboth hname
      rw [heq]
  · rintro ⟨hnames, hproviders⟩ entry
    refine ⟨fun hentry => ?_, fun hentry => ?_⟩
    · refine mem_entries_of_agree (fun name => (hnames name).mpr) ?_ hentry
      intro old hold entry hentry hname p
      exact (hproviders entry hentry old hold hname.symm p).symm
    · exact mem_entries_of_agree (fun name => (hnames name).mp) hproviders hentry

end Registry

/-! ### Operations over a storage that changes -/

namespace Workbench

variable {σ : Type} [Storage σ]

/-- The workbench after some operations were tried one after the other, each over the storage as it
was by then. -/
def attemptEach (bench : Workbench σ) (steps : List (σ × Operation)) : Workbench σ :=
  steps.foldl (fun bench step => { bench with storage := step.1 }.attempt step.2) bench

/-- An operation on a name whose text cannot be read leaves the registry as it is. -/
theorem registry_attempt_of_unreadable {bench : Workbench σ} {op : Operation} {name : String}
    {fault : Fault} (hasked : op.asked = some name) (hnew : name ∉ bench.registry.names)
    (h : (Storage.listing bench.storage name).outcome = .error fault) :
    (bench.attempt op).registry = bench.registry := by
  obtain ⟨more, hentry⟩ := Work.entry_of_unreadable hnew h bench.told
  -- whatever is to become of the entry, it has to be there first
  have hleft : ∀ {α : Type} (k : Entry → Work σ α),
      ((Work.entry (some name) >>= k).left bench).registry = bench.registry := by
    intro α k
    rw [Work.left, bind_of_error hentry]
  have hdrop : ∀ {α β : Type} {work : Work σ α} (f : α → β),
      (work.left bench).registry = bench.registry →
        ((work >>= fun value => pure (f value)).left bench).registry = bench.registry := by
    intro α β work f hwork
    rwa [Work.left_bind_pure]
  cases op with
  | get asked =>
    obtain rfl : asked = some name := hasked
    exact hleft _
  | add asked provider =>
    obtain rfl : asked = some name := hasked
    exact hdrop _ (hleft _)
  | removeFrom asked provider =>
    obtain rfl : asked = some name := hasked
    exact hdrop _ (hdrop _ (hleft _))
  | load asked content =>
    obtain rfl : asked = some name := hasked
    exact hdrop _ (hleft _)
  | remove provider => cases hasked
  | cache => cases hasked

/-- **An operation** does to the registry what it would do over some texts, or nothing where the
text of a new name cannot be read. -/
theorem registry_attempt (bench : Workbench σ) (op : Operation) :
    (∃ text, (bench.attempt op).registry = bench.registry.perform text op) ∨
      (bench.attempt op).registry = bench.registry := by
  have hperform : ∀ text : String → Option String,
      (∀ name, op.asked = some name → name ∉ bench.registry.names →
        (Storage.listing bench.storage name).outcome = .ok (text name)) →
      (bench.attempt op).registry = bench.registry.perform text op := by
    intro text h
    obtain ⟨more, hleft, -⟩ := Work.leaves_work h bench.told
    rw [attempt, hleft]
  cases hasked : op.asked with
  | none =>
    refine Or.inl ⟨fun _ => none, hperform _ fun name hname => ?_⟩
    rw [hasked] at hname
    cases hname
  | some name =>
    cases houtcome : (Storage.listing bench.storage name).outcome with
    | ok content =>
      refine Or.inl ⟨fun _ => content, hperform _ fun other hother _ => ?_⟩
      rw [← houtcome, Option.some.inj (hasked.symm.trans hother)]
    | error fault =>
      by_cases hname : name ∈ bench.registry.names
      · -- the entry is there, so its text is not read
        refine Or.inl ⟨fun _ => none, hperform _ fun other hother hnew => ?_⟩
        rw [← Option.some.inj (hasked.symm.trans hother)] at hnew
        exact absurd hname hnew
      · exact Or.inr (registry_attempt_of_unreadable hasked hname houtcome)

theorem continues_attempt (bench : Workbench σ) (op : Operation) :
    bench.registry.Continues (bench.attempt op).registry := by
  rcases registry_attempt bench op with ⟨text, hregistry⟩ | hregistry
  · rw [hregistry]
    exact Registry.continues_perform text bench.registry op
  · rw [hregistry]
    exact .refl bench.registry

/-- **Whatever is asked** of a registry, it continues what it was. -/
theorem continues_attemptEach (bench : Workbench σ) (steps : List (σ × Operation)) :
    bench.registry.Continues (bench.attemptEach steps).registry := by
  induction steps generalizing bench with
  | nil => exact .refl bench.registry
  | cons step steps ih =>
    have hstep := continues_attempt { bench with storage := step.1 } step.2
    exact hstep.trans (ih _)

/-- **The verdict is exact.** After the entries were remembered and whatever was asked since, over
storages that change and fail, something counts as changed just when there is a name that was not
there or is there no more, or one that has other providers than it had. What was remembered is what
was there then, the names are still there, and to remember the entries again is refused and changes
nothing. -/
theorem isModified_iff_differs {storage : σ} {earlier : List (σ × Operation)}
    {remembered : Workbench σ}
    (h : (Work.cache : Work σ Unit) ((new storage).attemptEach earlier) = .ok () remembered)
    (later : List (σ × Operation)) :
    let before := remembered.registry
    let bench := remembered.attemptEach later
    (bench.registry.isModified = true ↔
      (∃ name, ¬ (name ∈ bench.registry.names ↔ name ∈ before.names)) ∨
        ∃ entry ∈ bench.registry.entries, ∃ old ∈ before.entries, entry.name = old.name ∧
          ∃ p, ¬ (p ∈ entry.providers ↔ p ∈ old.providers)) ∧
    bench.registry.snapshot = some before.entries ∧
    before.names <+: bench.registry.names ∧
    (Work.cache : Work σ Unit) bench = .error .snapshotTaken bench := by
  intro before bench
  have hbefore : before.snapshot = some before.entries := by
    rw [Work.cache_apply] at h
    split at h
    · obtain ⟨-, rfl⟩ := EStateM.Result.ok.inj h
      rfl
    · cases h
  have hcontinues : before.Continues bench.registry := continues_attemptEach remembered later
  have hsnapshot := hcontinues.snapshot _ hbefore
  refine ⟨Registry.isModified_eq_true_iff hsnapshot, hsnapshot, hcontinues.names, ?_⟩
  rw [Work.cache_apply, hsnapshot]

/-- A provider that is taken out of all entries and put back into the one that held it is no
change, whatever the storage has become meanwhile; a name that is only asked for is one. -/
theorem isModified_iff_differs_of_restored_provider :
    let storage : Memory := { resources := [("a.Port", "x.A\ny.B\n")] }
    let cleared : Memory := { resources := [] }
    let restored : List (Memory × Operation) :=
      [(cleared, .remove (some "x.A")), (cleared, .cache),
        (cleared, .removeFrom (some "a.Port") none), (cleared, .add (some "a.Port") (some "x.A"))]
    ∃ remembered,
      (Work.cache : Work Memory Unit)
        ((new storage).attemptEach [(storage, .get (some "a.Port"))]) = .ok () remembered ∧
      (remembered.attemptEach restored).registry.isModified = false ∧
      (remembered.attemptEach
        (restored ++ [(cleared, .get (some "b.Port"))])).registry.isModified =
        true := by
  intro storage cleared restored
  obtain ⟨remembered, hcache, hsame, hnew⟩ : ∃ remembered,
      (Work.cache : Work Memory Unit)
        ((new storage).attemptEach [(storage, .get (some "a.Port"))]) = .ok () remembered ∧
      (remembered.attemptEach restored).registry.entries = remembered.registry.entries ∧
      ("b.Port" ∈
        (remembered.attemptEach (restored ++ [(cleared, .get (some "b.Port"))])).registry.names ∧
        "b.Port" ∉ remembered.registry.names) := ⟨_, rfl, by decide, by decide⟩
  refine ⟨remembered, hcache, ?_, ?_⟩
  · rw [← Bool.not_eq_true, (isModified_iff_differs hcache restored).1]
    rintro (⟨name, hname⟩ | ⟨entry, hentry, old, hold, hname, p, hp⟩)
    · exact hname (by rw [Registry.names, Registry.names, hsame])
    · rw [hsame] at hentry
      rw [List.inj_on_of_nodup_map remembered.registry.distinct hentry hold hname] at hp
      exact hp Iff.rfl
  · refine (isModified_iff_differs hcache _).1.mpr (Or.inl ⟨"b.Port", fun hboth => ?_⟩)
    exact hnew.2 (hboth.mp hnew.1)

end Workbench

end ProviderRegistry
