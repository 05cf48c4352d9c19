import ProviderRegistry.Proofs.Workbench

/-!
# Work in parallel

The same work on two workbenches comes to the same end, if the storages under them answer the same
(`Storage.Parallel`): it gives the same value or fails with the same fault, and leaves the same
registry (`Work.Parallel`). What was told is the same but for the notes that are meant for the log
alone, which may differ in their text (`Event.Alike`).

The two storages may be of different kinds. What they have in common is a relation that every write
and every deletion keeps; the rules below carry it through whatever work is put together from the
operations on a workbench.
-/

namespace ProviderRegistry

/-! ### Outcomes -/

/-- Two outcomes are **the same** when both are one value or both are one fault. Of the states that
are left `P` holds in the first case, and `E` in the second. -/
inductive SameOutcome {S T α : Type} (P E : S → T → Prop) :
    EStateM.Result Fault S α → EStateM.Result Fault T α → Prop
  | ok {s : S} {t : T} (value : α) (h : P s t) : SameOutcome P E (.ok value s) (.ok value t)
  | error {s : S} {t : T} (fault : Fault) (h : E s t) :
    SameOutcome P E (.error fault s) (.error fault t)

namespace SameOutcome

variable {S T α β : Type} {P P' E E' : S → T → Prop}

/-- Same outcomes in sequence: what follows starts from states that the first part left related,
and after a fault nothing follows. -/
theorem bind {x : EStateM Fault S α} {y : EStateM Fault T α} {k : α → EStateM Fault S β}
    {k' : α → EStateM Fault T β} {s : S} {t : T} (h : SameOutcome P E (x s) (y t))
    (hk : ∀ value s t, P s t → SameOutcome P' E (k value s) (k' value t)) :
    SameOutcome P' E ((x >>= k) s) ((y >>= k') t) := by
  rw [bind_apply, bind_apply]
  cases hx : x s with
  | ok value between =>
    cases hy : y t with
    | ok value' between' =>
      rw [hx, hy] at h
      cases h with
      | ok _ hbetween => exact hk value between between' hbetween
    | error fault' failed' =>
      rw [hx, hy] at h
      cases h
  | error fault failed =>
    cases hy : y t with
    | ok value' between' =>
      rw [hx, hy] at h
      cases h
    | error fault' failed' =>
      rw [hx, hy] at h
      cases h with
      | error _ hfailed => exact .error fault hfailed

/-- The same outcome leaves states that are related in every weaker way. -/
theorem mono {r : EStateM.Result Fault S α} {r' : EStateM.Result Fault T α}
    (h : SameOutcome P E r r') (hP : ∀ s t, P s t → P' s t) (hE : ∀ s t, E s t → E' s t) :
    SameOutcome P' E' r r' := by
  cases h with
  | ok value h => exact .ok value (hP _ _ h)
  | error fault h => exact .error fault (hE _ _ h)

/-- What is known of one outcome by itself may be added. -/
theorem and_of_ok {A : S → Prop} {B : T → Prop} {r : EStateM.Result Fault S α}
    {r' : EStateM.Result Fault T α} (h : SameOutcome P E r r')
    (hA : ∀ value s, r = .ok value s → A s) (hB : ∀ value t, r' = .ok value t → B t) :
    SameOutcome (fun s t => P s t ∧ A s ∧ B t) E r r' := by
  cases h with
  | ok value h => exact .ok value ⟨h, hA value _ rfl, hB value _ rfl⟩
  | error fault h => exact .error fault h

end SameOutcome

/-! ### Storages and workbenches -/

/-- Two events are **alike** when they are the same, or both notes for the log alone. -/
inductive Event.Alike : Event → Event → Prop
  | same (event : Event) : Alike event event
  | logged (text text' : String) : Alike (.logged text) (.logged text')

/-- What was told is like itself. -/
theorem Event.alike_same (events : List Event) : List.Forall₂ Alike events events :=
  List.forall₂_same.mpr fun event _ => .same event

/-- Storages are **parallel** under a relation when those that it relates answer the same, and it
still relates them after a write and after a deletion. -/
structure Storage.Parallel {σ τ : Type} [Storage σ] [Storage τ] (R : σ → τ → Prop) : Prop where
  names : ∀ {s t}, R s t → Storage.names s = Storage.names t
  listing : ∀ {s t}, R s t → ∀ name, Storage.listing s name = Storage.listing t name
  write : ∀ {s t}, R s t → ∀ name content,
    R (Storage.write s name content).1 (Storage.write t name content).1 ∧
      (Storage.write s name content).2 = (Storage.write t name content).2
  delete : ∀ {s t}, R s t → R (Storage.delete s).1 (Storage.delete t).1 ∧
    (Storage.delete s).2 = (Storage.delete t).2

/-- Workbenches are **parallel** when they have the same registry and related storages, and were
told the same but for the log. -/
structure Workbench.Parallel {σ τ : Type} (R : σ → τ → Prop) (bench : Workbench σ)
    (other : Workbench τ) : Prop where
  registry : bench.registry = other.registry
  storage : R bench.storage other.storage
  told : List.Forall₂ Event.Alike bench.told other.told

/-- Parallel workbenches stay so under another relation that their storages are in. -/
theorem Workbench.Parallel.mono {σ τ : Type} {R Q : σ → τ → Prop} {bench : Workbench σ}
    {other : Workbench τ} (h : bench.Parallel R other)
    (hQ : R bench.storage other.storage → Q bench.storage other.storage) :
    bench.Parallel Q other :=
  ⟨h.registry, hQ h.storage, h.told⟩

namespace Work

variable {σ τ α β : Type} {R : σ → τ → Prop}

/-- Two pieces of work are **parallel** when they come to the same outcome on parallel workbenches,
and leave them parallel. -/
def Parallel (R : σ → τ → Prop) (work : Work σ α) (other : Work τ α) : Prop :=
  ∀ bench bench', bench.Parallel R bench' →
    SameOutcome (Workbench.Parallel R) (Workbench.Parallel R) (work bench) (other bench')

/-! ### Putting work together -/

/-- Work that does nothing runs in parallel with itself. -/
theorem parallel_pure (value : α) : Parallel R (pure value) (pure value) :=
  fun _ _ h => .ok value h

/-- Work in parallel can be put in sequence. -/
theorem Parallel.bind {work : Work σ α} {other : Work τ α} {k : α → Work σ β} {k' : α → Work τ β}
    (h : Parallel R work other) (hk : ∀ value, Parallel R (k value) (k' value)) :
    Parallel R (work >>= k) (other >>= k') :=
  fun bench bench' hbench => (h bench bench' hbench).bind fun value => hk value

/-- Work that looks at its workbench runs in parallel if what it does on parallel workbenches
does. -/
theorem Parallel.get {k : Workbench σ → Work σ α} {k' : Workbench τ → Work τ α}
    (h : ∀ bench bench', bench.Parallel R bench' → Parallel R (k bench) (k' bench')) :
    Parallel R (get >>= k) (get >>= k') :=
  fun bench bench' hbench => h bench bench' hbench bench bench' hbench

/-- A value that does not depend on the storage is the same on both sides, and so is a fault. -/
theorem parallel_ofExcept (value : Except Fault α) :
    Parallel R (ofExcept value) (ofExcept value) := by
  intro bench bench' h
  cases value with
  | ok value => exact .ok value h
  | error fault => exact .error fault h

/-- What is told may differ in the notes for the log. -/
theorem parallel_tell_alike {events events' : List Event}
    (hevents : List.Forall₂ Event.Alike events events') :
    Parallel R (tell events) (tell events') :=
  fun _ _ h => .ok () ⟨h.registry, h.storage, List.rel_append h.told hevents⟩

theorem parallel_tell (events : List Event) : Parallel R (tell events) (tell events) :=
  parallel_tell_alike (Event.alike_same events)

theorem parallel_take (answer : Answer α) : Parallel R (take answer) (take answer) :=
  (parallel_tell answer.told).bind fun _ => parallel_ofExcept answer.outcome

theorem parallel_registry : Parallel R registry registry := by
  intro bench bench' h
  have hsame : (registry bench' : EStateM.Result Fault _ _) = .ok bench.registry bench' := by
    rw [h.registry]
    rfl
  rw [hsame]
  exact .ok bench.registry h

theorem parallel_setRegistry (registry : Registry) :
    Parallel R (setRegistry registry) (setRegistry registry) :=
  fun _ _ h => .ok () ⟨rfl, h.storage, h.told⟩

/-- Storages that answer one operation alike, and stay related, let it be used in parallel. -/
theorem parallel_store {step : σ → σ × Answer α} {step' : τ → τ × Answer α}
    (h : ∀ {s t}, R s t → R (step s).1 (step' t).1 ∧ (step s).2 = (step' t).2) :
    Parallel R (store step) (store step') := by
  intro bench bench' hbench
  obtain ⟨hstorage, hanswer⟩ := h hbench.storage
  rw [store_apply, store_apply, ← hanswer]
  exact parallel_ofExcept _ _ _
    ⟨hbench.registry, hstorage, List.rel_append hbench.told (Event.alike_same _)⟩

/-- Work over a list runs in parallel if the work on each member does. -/
theorem parallel_mapM {f : α → Work σ β} {f' : α → Work τ β} {as : List α}
    (h : ∀ a ∈ as, Parallel R (f a) (f' a)) : Parallel R (as.mapM f) (as.mapM f') := by
  induction as with
  | nil => exact parallel_pure []
  | cons a as ih =>
    rw [List.mapM_cons, List.mapM_cons]
    refine (h a List.mem_cons_self).bind fun value => ?_
    exact (ih fun b hb => h b (List.mem_cons_of_mem a hb)).bind fun _ => parallel_pure _

/-- Work over a list that gives no values runs in parallel if the work on each member does. -/
theorem parallel_forM {f : α → Work σ Unit} {f' : α → Work τ Unit} {as : List α}
    (h : ∀ a ∈ as, Parallel R (f a) (f' a)) : Parallel R (as.forM f) (as.forM f') := by
  induction as with
  | nil => exact parallel_pure ()
  | cons a as ih =>
    exact (h a List.mem_cons_self).bind fun _ => ih fun b hb => h b (List.mem_cons_of_mem a hb)

/-! ### Entries -/

/-- A removal does not touch the storage, so it needs nothing of it. -/
theorem parallel_remove (provider : Option String) :
    Parallel R (remove provider) (remove provider) :=
  (parallel_ofExcept _).bind fun _ => parallel_registry.bind fun _ =>
    (parallel_tell _).bind fun _ => parallel_setRegistry _

theorem parallel_cache : Parallel R cache cache :=
  parallel_registry.bind fun _ => (parallel_ofExcept _).bind parallel_setRegistry

variable [Storage σ] [Storage τ]

/-- An entry that is asked for first starts from the same listing on both sides. -/
theorem parallel_materialize (h : Storage.Parallel R) (name : String) :
    Parallel R (materialize name) (materialize name) := by
  refine (parallel_tell _).bind fun _ => Parallel.get fun bench bench' hbench => ?_
  rw [h.listing hbench.storage]
  refine (parallel_take _).bind fun text => parallel_registry.bind fun registry => ?_
  exact (parallel_tell _).bind fun _ => (parallel_setRegistry _).bind fun _ => parallel_pure _

/-- Asking for an entry gives the same entry on both sides. -/
theorem parallel_entry (h : Storage.Parallel R) (name : Option String) :
    Parallel R (entry name) (entry name) := by
  refine (parallel_ofExcept _).bind fun name => parallel_registry.bind fun registry => ?_
  cases registry.find? name with
  | some found => exact parallel_pure found
  | none => exact parallel_materialize h name

/-- Every change of one entry is the same change on both sides. -/
theorem parallel_changeEntry (h : Storage.Parallel R) (name : Option String)
    (change : Entry → Except Fault (Entry × List Event)) :
    Parallel R (changeEntry name change) (changeEntry name change) := by
  refine (parallel_entry h name).bind fun old => (parallel_ofExcept _).bind fun changed => ?_
  exact (parallel_tell _).bind fun _ => parallel_registry.bind fun _ =>
    (parallel_setRegistry _).bind fun _ => parallel_pure old

/-- A provider is added on both sides, or on none. -/
theorem parallel_add (h : Storage.Parallel R) (name provider : Option String) :
    Parallel R (add name provider) (add name provider) :=
  (parallel_changeEntry h name _).bind fun _ => parallel_pure ()

/-- Sessions open alike: every listing is loaded under the same name on both sides. -/
theorem parallel_openSession (h : Storage.Parallel R) : Parallel R openSession openSession := by
  refine Parallel.get fun bench bench' hbench => ?_
  rw [h.names hbench.storage]
  refine (parallel_take _).bind fun names => Parallel.bind ?_ fun _ => parallel_cache
  exact parallel_forM fun name _ => (parallel_entry h (some name)).bind fun _ => parallel_pure ()

end Work

end ProviderRegistry
