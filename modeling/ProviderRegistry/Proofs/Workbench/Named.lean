import ProviderRegistry.Proofs.Workbench

/-!
# The names of a workbench

Until its storage is written, work leaves the storage as it is and makes entries only for the names
that it asks for. So a workbench over a storage has entries for names of some kind alone
(`Workbench.Named`) as long as no other names are asked for, also where the work fails.

Work **stays** so, for some reasons to fail (`Work.Stays`), when it keeps the names of the
workbench and every fault that it comes to is one of these reasons. One fault comes from the
storage, a listing that cannot be asked for; the others come from what is missing in a request.
-/

namespace ProviderRegistry

/-- A workbench over a storage is **named** when all names in its registry are of some kind. -/
structure Workbench.Named {σ : Type} (storage : σ) (Kind : String → Prop) (bench : Workbench σ) :
    Prop where
  storage : bench.storage = storage
  names : ∀ name ∈ bench.registry.names, Kind name

/-- The listing of a name **fails only** for some reasons. -/
def Storage.FailsOnly {σ : Type} [Storage σ] (storage : σ) (reason : Fault → Prop)
    (name : String) : Prop :=
  ∀ fault, (Storage.listing storage name).outcome = .error fault → reason fault

namespace Work

variable {σ α β : Type} {storage : σ} {Kind : String → Prop} {reason : Fault → Prop}

/-- Work **stays** when it leaves a storage as it is and names on the workbench of one kind, and
fails only for some reasons. -/
abbrev Stays (storage : σ) (Kind : String → Prop) (reason : Fault → Prop) (work : Work σ α) :
    Prop :=
  Leads (Workbench.Named storage Kind) work (fun _ => Workbench.Named storage Kind)
    fun fault failed => failed.Named storage Kind ∧ reason fault

/-! ### Steps that do not fail -/

section Steps

variable {E : Fault → Workbench σ → Prop}

theorem stays_pure (value : α) : Stays storage Kind reason (pure value) := leads_pure fun _ => id

theorem leads_tell (events : List Event) :
    Leads (Workbench.Named storage Kind) (tell events) (fun _ => Workbench.Named storage Kind) E :=
  fun _ hbench => ⟨hbench.storage, hbench.names⟩

theorem leads_registry :
    Leads (Workbench.Named storage Kind) registry
      (fun registry done => done.Named storage Kind ∧ ∀ name ∈ registry.names, Kind name) E :=
  leads_get.bind fun _ => leads_pure fun _ hbench => ⟨hbench.1, hbench.2.names⟩

theorem leads_setRegistry {registry : Registry} (h : ∀ name ∈ registry.names, Kind name) :
    Leads (Workbench.Named storage Kind) (setRegistry registry)
      (fun _ => Workbench.Named storage Kind) E :=
  fun _ hbench => ⟨hbench.storage, h⟩

end Steps

/-! ### Steps that may fail -/

/-- What is decided without the workbench fails only for its own reason. -/
theorem leads_ofExcept {value : Except Fault α}
    (h : ∀ fault, value = .error fault → reason fault) :
    Leads (Workbench.Named storage Kind) (ofExcept value)
      (fun v done => done.Named storage Kind ∧ value = .ok v)
      fun fault failed => failed.Named storage Kind ∧ reason fault := by
  cases value with
  | ok v => exact leads_pure fun bench hbench => ⟨hbench, rfl⟩
  | error fault => exact leads_throw fun bench hbench => ⟨hbench, h fault rfl⟩

theorem leads_take {answer : Answer α}
    (h : ∀ fault, answer.outcome = .error fault → reason fault) :
    Leads (Workbench.Named storage Kind) (take answer)
      (fun value done => done.Named storage Kind ∧ answer.outcome = .ok value)
      fun fault failed => failed.Named storage Kind ∧ reason fault :=
  (leads_tell answer.told).bind fun _ => leads_ofExcept h

/-- To remove a provider fails only where none is given. -/
theorem stays_remove {provider : Option String} (h : provider ≠ none ∨ ∀ fault, reason fault) :
    Stays storage Kind reason (remove provider) := by
  have hrequired : ∀ fault, required "provider" provider = .error fault → reason fault := by
    rintro fault hfault
    refine h.elim (fun hsome => ?_) fun hall => hall fault
    obtain ⟨provider, rfl⟩ := Option.ne_none_iff_exists'.mp hsome
    cases hfault
  refine (leads_ofExcept hrequired).bind fun provider => leads_of_and fun _ => ?_
  refine leads_registry.bind fun registry => leads_of_and fun hnames => ?_
  refine (leads_tell _).bind fun _ => leads_setRegistry ?_
  rwa [Registry.names_remove]

theorem stays_cache : Stays storage Kind (fun _ => True) cache := by
  refine leads_registry.bind fun registry => leads_of_and fun hnames => ?_
  refine (leads_ofExcept fun _ _ => trivial).bind fun cached => leads_of_and fun hcached => ?_
  refine leads_setRegistry ?_
  rw [Registry.cache] at hcached
  split at hcached
  · cases hcached
  · obtain rfl := Except.ok.inj hcached
    exact hnames

variable [Storage σ]

/-- To make an entry fails only where the listing cannot be asked for. -/
theorem stays_materialize {name : String} (hkind : Kind name)
    (h : Storage.FailsOnly storage reason name) :
    Stays storage Kind reason (materialize name) := by
  refine (leads_tell _).bind fun _ => leads_get.bind fun bench => leads_of_and fun hbench => ?_
  rw [← hbench.storage] at h
  refine (leads_take h).bind fun text => leads_of_and fun _ => ?_
  refine leads_registry.bind fun registry => leads_of_and fun hnames => ?_
  refine (leads_tell _).bind fun _ => Leads.bind ?_ fun _ => stays_pure _
  -- the name that is new is the one that was asked for
  refine leads_setRegistry fun other hother => ?_
  rcases Registry.mem_names_append.mp hother with hother | rfl
  · exact hnames other hother
  · rwa [Registry.name_initial]

/-- **A name that is asked for** is the only one that may be new. -/
theorem stays_entry {name : String} (hkind : Kind name)
    (h : Storage.FailsOnly storage reason name) :
    Stays storage Kind reason (entry (some name)) := by
  refine (leads_ofExcept nofun).bind fun asked => leads_of_and fun hasked => ?_
  obtain rfl := Except.ok.inj hasked
  refine leads_registry.bind fun registry => leads_of_and fun _ => ?_
  cases registry.find? name with
  | some found => exact stays_pure found
  | none => exact stays_materialize hkind h

/-- To give a name a provider fails only where the listing of the name cannot be asked for, or
where one of the two is missing. -/
theorem stays_add {name provider : Option String}
    (hkind : ∀ asked, name = some asked → Kind asked ∧ Storage.FailsOnly storage reason asked)
    (h : (name ≠ none ∧ provider ≠ none ∧ provider ≠ some "") ∨ ∀ fault, reason fault) :
    Stays storage Kind reason (add name provider) := by
  refine Leads.bind ?_ fun _ => stays_pure ()
  have hentry : Stays storage Kind reason (entry name) := by
    cases name with
    | some asked => exact stays_entry (hkind asked rfl).1 (hkind asked rfl).2
    | none => exact leads_throw fun bench hbench => ⟨hbench, h.elim (absurd rfl ·.1) (· _)⟩
  have hchange : ∀ old fault, Entry.add old provider = .error fault → reason fault := by
    rintro old fault hfault
    refine h.elim (fun hgiven => ?_) fun hall => hall fault
    obtain ⟨provider, rfl⟩ := Option.ne_none_iff_exists'.mp hgiven.2.1
    rw [Entry.add] at hfault
    · cases hfault
    · exact fun hempty => hgiven.2.2 (congrArg some hempty)
  refine hentry.bind fun old => (leads_ofExcept (hchange old)).bind fun new => ?_
  refine leads_of_and fun _ => (leads_tell _).bind fun _ => ?_
  refine leads_registry.bind fun registry => leads_of_and fun hnames => ?_
  refine (leads_setRegistry ?_).bind fun _ => stays_pure old
  rwa [Registry.names_replace]

/-- **A session opens** with the names that the storage tells. -/
theorem stays_openSession
    (h : ∀ names, (Storage.names storage).outcome = .ok names → ∀ name ∈ names, Kind name) :
    Stays storage Kind (fun _ => True) openSession := by
  refine leads_get.bind fun bench => leads_of_and fun hbench => ?_
  refine (leads_take fun _ _ => trivial).bind fun names => leads_of_and fun hnames => ?_
  rw [hbench.storage] at hnames
  refine (leads_forM fun name hname => ?_).bind fun _ => stays_cache
  exact (stays_entry (h names hnames name hname) fun _ _ => trivial).bind fun _ => stays_pure ()

end Work

end ProviderRegistry
