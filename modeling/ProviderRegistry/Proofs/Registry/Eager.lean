import Mathlib.Data.List.Induction
import Mathlib.Data.List.Perm.Basic
import Mathlib.Logic.Function.Basic
import ProviderRegistry.Proofs.Workbench

/-!
# Registries and eager stores

An **eager store** (`EagerStore`) has the providers of every name from the start, and an operation
changes it at once wherever it reaches. A registry loads a name when it is first asked for, and
otherwise only remembers what was removed. Seen through `Registry.shown` there is no difference: an
operation takes what a registry shows to what the eager store makes of it (`shown_perform`), and so
do many (`shown_performAll`). The names of the registry are those that were asked for, in the order
in which that happened first (`names_performAll_empty`).

Operations that give no name a provider may change places (`EagerStore.run_perm`), since all that
they do is to take out what is named in one of them (`EagerStore.mem_run_iff`).
-/

namespace ProviderRegistry

/-- What may be asked of a registry. What it is about may turn out to be missing. -/
inductive Operation where
  | get (name : Option String)
  | add (name provider : Option String)
  | removeFrom (name provider : Option String)
  | load (name text : Option String)
  | remove (provider : Option String)
  | cache
  deriving DecidableEq, Repr

namespace Operation

/-- The name whose entry is asked for. -/
def asked : Operation → Option String
  | .get name | .add name _ | .removeFrom name _ | .load name _ => name
  | .remove _ | .cache => none

/-- Does the operation give a name providers? -/
def adds : Operation → Bool
  | .add .. | .load .. => true
  | _ => false

/-- The operation **takes** a provider from a name, from this one or from all. -/
def Takes (op : Operation) (name provider : String) : Prop :=
  op = .removeFrom (some name) (some provider) ∨ op = .remove (some provider)

end Operation

/-! ### Eager stores -/

/-- An **eager store**: the providers of every name. -/
abbrev EagerStore := String → ProviderSet

namespace EagerStore

/-- The store of some texts, all of them read. -/
def ofTexts (text : String → Option String) : EagerStore := fun name => Listing.stored (text name)

/-- The store after an operation, which changes nothing if something is missing that it is
about. -/
def apply (store : EagerStore) : Operation → EagerStore
  | .add (some name) (some provider) =>
    if provider = "" then store else Function.update store name ((store name).insert provider)
  | .removeFrom (some name) (some provider) =>
    Function.update store name ((store name).erase provider)
  | .load (some name) (some text) =>
    Function.update store name ((store name).insertAll (Listing.parse text))
  | .remove (some provider) => fun name => (store name).erase provider
  | _ => store

/-- The store after some operations. -/
def run (store : EagerStore) (ops : List Operation) : EagerStore := ops.foldl apply store

variable {store : EagerStore} {op : Operation} {ops ops' : List Operation} {name provider : String}

/-- Operations run one after the other. -/
theorem run_append (store : EagerStore) (ops more : List Operation) :
    store.run (ops ++ more) = (store.run ops).run more :=
  List.foldl_append

/-- What is left after an operation that adds nothing. -/
theorem mem_apply_iff (h : op.adds = false) :
    provider ∈ store.apply op name ↔ provider ∈ store name ∧ ¬ op.Takes name provider := by
  cases op with
  | get | cache => simp [apply, Operation.Takes]
  | add | load => cases h
  | remove taken =>
    cases taken with
    | none => simp [apply, Operation.Takes]
    | some taken => simp [apply, Operation.Takes, eq_comm]
  | removeFrom from_ taken =>
    cases from_ with
    | none => simp [apply, Operation.Takes]
    | some from_ =>
      cases taken with
      | none => simp [apply, Operation.Takes]
      | some taken =>
        by_cases hname : name = from_
        · subst hname
          simp [apply, Operation.Takes, eq_comm]
        · simp [apply, Operation.Takes, hname, Ne.symm hname]

/-- What is left after operations that add nothing. -/
theorem mem_run_iff (h : ∀ op ∈ ops, op.adds = false) :
    provider ∈ store.run ops name ↔
      provider ∈ store name ∧ ∀ op ∈ ops, ¬ op.Takes name provider := by
  induction ops generalizing store with
  | nil => simp [run]
  | cons op ops ih =>
    obtain ⟨hop, hops⟩ := List.forall_mem_cons.mp h
    rw [run, List.foldl_cons, ← run, ih hops, mem_apply_iff hop, List.forall_mem_cons, and_assoc]

/-- **Operations that add nothing** may be done in any order. -/
theorem run_perm (hperm : ops.Perm ops') (h : ∀ op ∈ ops, op.adds = false) :
    store.run ops = store.run ops' := by
  have h' : ∀ op ∈ ops', op.adds = false := fun op hop => h op (hperm.mem_iff.mpr hop)
  funext name
  refine ProviderSet.ext fun provider => ?_
  rw [mem_run_iff h, mem_run_iff h']
  exact and_congr_right fun _ => forall_congr' fun op => imp_congr_left hperm.mem_iff

end EagerStore

/-! ### Changes of entries -/

namespace Entry

/-- A change of entries is **quiet** when it never renames one and tells no diagnostic. -/
def Quiet (f : Entry → Except Fault (Entry × List Event)) : Prop :=
  ∀ entry new told, f entry = .ok (new, told) →
    new.name = entry.name ∧ told.filterMap Event.diagnosis? = []

/-- An addition keeps the name of the entry and tells no diagnostic. -/
theorem quiet_add (provider : Option String) : Quiet (Entry.add · provider) := by
  intro entry new told h
  cases provider with
  | none => cases h
  | some provider =>
    by_cases hempty : provider = ""
    · subst hempty
      cases h
    · obtain ⟨rfl, rfl⟩ := Prod.mk.inj (Except.ok.inj ((add_some hempty).symm.trans h))
      exact ⟨rfl, rfl⟩

theorem quiet_remove (provider : Option String) : Quiet (Entry.remove · provider) := by
  intro entry new told h
  cases provider with
  | none => cases h
  | some provider =>
    obtain ⟨rfl, rfl⟩ := Prod.mk.inj (Except.ok.inj h)
    exact ⟨rfl, Work.diagnosis?_removalNotes entry provider⟩

theorem quiet_load (text : Option String) : Quiet (Entry.load · text) := by
  intro entry new told h
  cases text with
  | none => cases h
  | some text =>
    obtain ⟨rfl, rfl⟩ := Prod.mk.inj (Except.ok.inj h)
    exact ⟨rfl, Work.diagnosis?_loadNotes entry.name text⟩

end Entry

/-! ### Registries under operations -/

namespace Registry

variable {text : String → Option String} {registry other : Registry} {name : String}

/-- The registry once the entry of a name was loaded and changed, unless the change fails. -/
def change (text : String → Option String) (registry : Registry) (name : String)
    (f : Entry → Except Fault (Entry × List Event)) : Registry :=
  match f (registry.entryOf text name) with
  | .ok (new, _) => registry.update text new
  | .error _ => registry.demand text name

/-- The registry after an operation. -/
def perform (text : String → Option String) (registry : Registry) : Operation → Registry
  | .get (some name) => registry.demand text name
  | .add (some name) provider => registry.change text name (Entry.add · provider)
  | .removeFrom (some name) provider => registry.change text name (Entry.remove · provider)
  | .load (some name) content => registry.change text name (Entry.load · content)
  | .remove (some provider) => registry.remove provider
  | .cache => { registry with snapshot := some (registry.snapshot.getD registry.entries) }
  | _ => registry

/-- The registry after some operations. -/
def performAll (text : String → Option String) (registry : Registry) (ops : List Operation) :
    Registry :=
  ops.foldl (perform text) registry

/-- What a registry **shows**: the providers of every name, loaded or not. -/
def shown (text : String → Option String) (registry : Registry) : EagerStore := fun name =>
  (registry.entryOf text name).providers

/-- A registry takes operations one after the other. -/
theorem performAll_append (registry : Registry) (ops more : List Operation) :
    registry.performAll text (ops ++ more) = (registry.performAll text ops).performAll text more :=
  List.foldl_append

/-! ### What is shown -/

variable (text) in
/-- The entries are what is shown of their names. -/
theorem mem_entries_iff_shown {entry : Entry} :
    entry ∈ registry.entries ↔
      entry.name ∈ registry.names ∧ entry.providers = registry.shown text entry.name := by
  rw [mem_entries_iff text]
  refine and_congr_right fun _ => ?_
  constructor
  · intro h
    rw [shown, h]
  · intro h
    refine Entry.eq_of_name_eq (name_entryOf entry.name) fun p => ?_
    rw [h, shown]

/-- Before anything was asked for, the names show what is stored. -/
theorem shown_empty : shown text empty = EagerStore.ofTexts text :=
  funext fun name => congrArg Entry.providers (entryOf_empty name)

/-- Asking for a name shows nothing new. -/
theorem shown_demand (name : String) :
    shown text (registry.demand text name) = shown text registry :=
  funext fun other => congrArg Entry.providers (entryOf_demand name other)

/-- An update is seen under the name of its entry, and nowhere else. -/
theorem shown_update (entry : Entry) :
    shown text (registry.update text entry) =
      Function.update (shown text registry) entry.name entry.providers := by
  funext name
  rw [shown, entryOf_update, Function.update_apply]
  split
  · rfl
  · rfl

variable {f : Entry → Except Fault (Entry × List Event)} {new : Entry} {told : List Event}

/-- A change that succeeds updates the entry. -/
theorem change_of_ok (h : f (registry.entryOf text name) = .ok (new, told)) :
    registry.change text name f = registry.update text new := by
  rw [change, h]

/-- A change that fails has asked for the entry, and no more. -/
theorem change_of_error {fault : Fault} (h : f (registry.entryOf text name) = .error fault) :
    registry.change text name f = registry.demand text name := by
  rw [change, h]

/-- A change that succeeds is seen under its name. -/
theorem shown_change (h : f (registry.entryOf text name) = .ok (new, told))
    (hname : new.name = (registry.entryOf text name).name) :
    shown text (registry.change text name f) =
      Function.update (shown text registry) name new.providers := by
  rw [change_of_ok h, shown_update, hname, name_entryOf]

/-- A change that fails is not seen. -/
theorem shown_change_of_error {fault : Fault}
    (h : f (registry.entryOf text name) = .error fault) :
    shown text (registry.change text name f) = shown text registry := by
  rw [change_of_error h, shown_demand]

/-- **An operation** takes what a registry shows to what an eager store makes of it. -/
theorem shown_perform (registry : Registry) (op : Operation) :
    shown text (registry.perform text op) = (shown text registry).apply op := by
  cases op with
  | get name =>
    cases name with
    | none => rfl
    | some name => exact shown_demand name
  | add name provider =>
    cases name with
    | none => rfl
    | some name =>
      cases provider with
      | none => exact shown_change_of_error rfl
      | some provider =>
        by_cases hempty : provider = ""
        · subst hempty
          exact shown_change_of_error rfl
        · rw [EagerStore.apply, if_neg hempty]
          exact shown_change (Entry.add_some hempty) (Entry.name_insert _ _)
  | removeFrom name provider =>
    cases name with
    | none => rfl
    | some name =>
      cases provider with
      | none => exact shown_change_of_error rfl
      | some provider => exact shown_change Entry.remove_some (Entry.name_erase _ _)
  | load name content =>
    cases name with
    | none => rfl
    | some name =>
      cases content with
      | none => exact shown_change_of_error rfl
      | some content => exact shown_change Entry.load_some (Entry.name_insertAll _ _)
  | remove provider =>
    cases provider with
    | none => rfl
    | some provider =>
      exact funext fun name => congrArg Entry.providers (entryOf_remove provider name)
  | cache => rfl

/-- **What is shown** after some operations the eager store has after them. -/
theorem shown_performAll (registry : Registry) (ops : List Operation) :
    shown text (registry.performAll text ops) = (shown text registry).run ops := by
  induction ops generalizing registry with
  | nil => rfl
  | cons op ops ih =>
    rw [performAll, List.foldl_cons, ← performAll, ih, shown_perform, EagerStore.run,
      EagerStore.run, List.foldl_cons]

/-! ### The names -/

/-- A change asks for its name, whether it succeeds or not. -/
theorem names_change (hf : Entry.Quiet f) :
    (registry.change text name f).names =
      registry.names ++ [name].filter fun name => name ∉ registry.names := by
  cases h : f (registry.entryOf text name) with
  | ok made =>
    obtain ⟨new, told⟩ := made
    rw [change_of_ok h, update, names_replace, names_demand, (hf _ _ _ h).1, name_entryOf]
  | error fault => rw [change_of_error h, names_demand]

/-- The names that an operation loads: the one that it asks for, unless it is there. -/
def loaded (registry : Registry) (op : Operation) : List String :=
  op.asked.toList.filter fun name => name ∉ registry.names

/-- **An operation** adds the name that it asks for at the end. -/
theorem names_perform (registry : Registry) (op : Operation) :
    (registry.perform text op).names = registry.names ++ registry.loaded op := by
  cases op with
  | get name =>
    cases name with
    | none => exact (List.append_nil _).symm
    | some name => exact names_demand name
  | add name provider =>
    cases name with
    | none => exact (List.append_nil _).symm
    | some name => exact names_change (Entry.quiet_add provider)
  | removeFrom name provider =>
    cases name with
    | none => exact (List.append_nil _).symm
    | some name => exact names_change (Entry.quiet_remove provider)
  | load name content =>
    cases name with
    | none => exact (List.append_nil _).symm
    | some name => exact names_change (Entry.quiet_load content)
  | remove provider =>
    rw [loaded, Operation.asked, Option.toList_none, List.filter_nil, List.append_nil]
    cases provider with
    | none => rfl
    | some provider => exact names_remove registry provider
  | cache => exact (List.append_nil _).symm

/-- No name is ever lost, and new ones come last. -/
theorem names_prefix_performAll (registry : Registry) (ops : List Operation) :
    registry.names <+: (registry.performAll text ops).names := by
  induction ops generalizing registry with
  | nil => exact List.prefix_refl _
  | cons op ops ih =>
    have hop : registry.names <+: (registry.perform text op).names := by
      rw [names_perform]
      exact List.prefix_append _ _
    exact hop.trans (ih _)

private theorem eraseDups_append_toList (names : List String) (asked : Option String) :
    (names ++ asked.toList).eraseDups =
      names.eraseDups ++ asked.toList.filter fun name => name ∉ names.eraseDups := by
  cases asked with
  | none => simp
  | some name =>
    rw [List.eraseDups_append]
    by_cases h : name ∈ names
    · simp [List.removeAll, h]
    · simp [List.removeAll, h, List.eraseDups_cons]

/-- **The names** of a registry that was new are those that were asked for, each where that
happened first. -/
theorem names_performAll_empty (ops : List Operation) :
    (empty.performAll text ops).names = (ops.filterMap Operation.asked).eraseDups := by
  -- the last operation, which may bring a name to the end
  induction ops using List.reverseRecOn with
  | nil => rfl
  | append_singleton ops op ih =>
    have hlast : empty.performAll text (ops ++ [op]) =
        (empty.performAll text ops).perform text op := List.foldl_concat ..
    have hasked : [op].filterMap Operation.asked = op.asked.toList := by
      cases h : op.asked <;> simp [h]
    rw [hlast, names_perform, loaded, ih, List.filterMap_append, hasked, eraseDups_append_toList]

end Registry

end ProviderRegistry
