import Mathlib.Data.List.Nodup
import Mathlib.Data.List.Perm.Subperm
import ProviderRegistry.Registry

/-!
# What a registry holds, loaded or not

A registry loads an entry when its name is first asked for, from the text that the storage keeps
under that name. `entryOf` does not wait: it is the entry that a name has, or the one that it would
be given now. Seen through it, loading changes nothing (`entryOf_demand`), a removal reaches every
name at once (`entryOf_remove`), and an entry that is put in the place of another changes no other
name (`entryOf_update`). Together with the names, `entryOf` determines the entries
(`mem_entries_iff`), and with them the verdict on whether anything changed
(`isModified_eq_false_iff`).

The texts of a storage are a function `text` from names to what is kept under them.
-/

namespace ProviderRegistry

/-- The providers that a text lists; none where there is no text. -/
def Listing.stored (text : Option String) : ProviderSet :=
  ProviderSet.empty.insertAll ((text.map Listing.parse).getD [])

/-- Stored are the providers of the listing, if there is one. -/
@[simp]
theorem Listing.mem_stored {text : Option String} {provider : String} :
    provider ∈ stored text ↔ ∃ content, text = some content ∧ provider ∈ parse content := by
  cases text <;> simp [stored]

/-- Entries of the same name and the same providers are the same. -/
theorem Entry.eq_of_name_eq {entry other : Entry} (hname : entry.name = other.name)
    (h : ∀ p, p ∈ entry.providers ↔ p ∈ other.providers) : entry = other := by
  obtain ⟨name, providers⟩ := entry
  obtain ⟨otherName, otherProviders⟩ := other
  obtain rfl : name = otherName := hname
  obtain rfl : providers = otherProviders := ProviderSet.ext h
  rfl

namespace Registry

variable {text : String → Option String} {registry : Registry}

/-! ### Finding entries -/

/-- A name finds exactly the entry of that name. -/
theorem find?_eq_some_iff {name : String} {entry : Entry} :
    registry.find? name = some entry ↔ entry ∈ registry.entries ∧ entry.name = name := by
  constructor
  · intro h
    exact ⟨List.mem_of_find?_eq_some h, by simpa using List.find?_some h⟩
  · rintro ⟨hmem, rfl⟩
    obtain ⟨found, hfound⟩ : ∃ found, registry.find? entry.name = some found :=
      Option.isSome_iff_exists.mp (List.find?_isSome.mpr ⟨entry, hmem, by simp⟩)
    have hname : found.name = entry.name := by simpa using List.find?_some hfound
    rw [hfound, List.inj_on_of_nodup_map registry.distinct (List.mem_of_find?_eq_some hfound) hmem
      hname]

/-- An entry is missing just when its name is not asked for yet. -/
theorem find?_eq_none_iff {name : String} :
    registry.find? name = none ↔ name ∉ registry.names := by
  rw [← contains_some_iff, contains, Bool.not_eq_true, Option.isSome_eq_false_iff,
    Option.isNone_iff_eq_none]

theorem find?_mapEntries {f : Entry → Entry} {h : ∀ entry, (f entry).name = entry.name}
    (name : String) : (registry.mapEntries f h).find? name = (registry.find? name).map f := by
  have hcomp : (fun entry : Entry => entry.name == name) ∘ f = fun entry => entry.name == name :=
    funext fun entry => by simp [h]
  rw [find?, mapEntries, List.find?_map, hcomp, find?]

/-- An appended entry is found under its name, unless there was one already. -/
theorem find?_append (entry : Entry) (name : String) :
    (registry.append entry).find? name =
      (registry.find? name).or (if entry.name = name then some entry else none) := by
  rw [append]
  split
  · rename_i hmem
    cases hfind : registry.find? name with
    | some found => rfl
    | none =>
      have hne : entry.name ≠ name := by
        rintro rfl
        exact find?_eq_none_iff.mp hfind hmem
      simp [hne]
  · simp only [find?, List.find?_append, List.find?_singleton, beq_iff_eq]

/-! ### The entry of a name, loaded or not -/

/-- The entry that a name has, or the one that it would be given if it were asked for now. -/
def entryOf (text : String → Option String) (registry : Registry) (name : String) : Entry :=
  (registry.find? name).getD (registry.initial name (text name))

/-- The registry once a name was asked for. -/
def demand (text : String → Option String) (registry : Registry) (name : String) : Registry :=
  registry.append (registry.initial name (text name))

/-- The registry with an entry in the place of the one of its name, which is loaded before. -/
def update (text : String → Option String) (registry : Registry) (entry : Entry) : Registry :=
  (registry.demand text entry.name).replace entry

/-- The registry with one more provider of a name. -/
def register (text : String → Option String) (registry : Registry) (name provider : String) :
    Registry :=
  registry.update text ((registry.entryOf text name).insert provider)

@[simp]
theorem name_entryOf (name : String) : (registry.entryOf text name).name = name := by
  rw [entryOf]
  cases hfind : registry.find? name with
  | some entry => exact (find?_eq_some_iff.mp hfind).2
  | none => simp

variable (text) in
/-- The entries are what their names show. -/
theorem mem_entries_iff {entry : Entry} :
    entry ∈ registry.entries ↔
      entry.name ∈ registry.names ∧ registry.entryOf text entry.name = entry := by
  constructor
  · intro hmem
    refine ⟨List.mem_map_of_mem hmem, ?_⟩
    rw [entryOf, find?_eq_some_iff.mpr ⟨hmem, rfl⟩, Option.getD_some]
  · rintro ⟨hname, hentry⟩
    cases hfind : registry.find? entry.name with
    | none => exact absurd hname (find?_eq_none_iff.mp hfind)
    | some found =>
      rw [entryOf, hfind, Option.getD_some] at hentry
      rw [← hentry]
      exact (find?_eq_some_iff.mp hfind).1

variable (text) in

/-- The entry of a name that was asked for is one of the entries. -/
theorem entryOf_mem {name : String} (h : name ∈ registry.names) :
    registry.entryOf text name ∈ registry.entries :=
  (mem_entries_iff text).mpr ⟨by rwa [name_entryOf], by rw [name_entryOf]⟩

/-- A new registry shows what the storage keeps. -/
theorem entryOf_empty (name : String) :
    empty.entryOf text name = ⟨name, Listing.stored (text name)⟩ := by
  cases htext : text name with
  | none => simp [entryOf, find?, initial, empty, htext, Entry.bare, Listing.stored]; rfl
  | some content => simp [entryOf, find?, initial, empty, htext, Listing.stored]; rfl

/-! ### Loading -/

theorem removed_append (entry : Entry) : (registry.append entry).removed = registry.removed := by
  rw [append]
  split <;> rfl

theorem snapshot_append (entry : Entry) :
    (registry.append entry).snapshot = registry.snapshot := by
  rw [append]
  split <;> rfl

/-- Asking for an entry does not touch what was remembered. -/
@[simp]
theorem snapshot_demand (name : String) :
    (registry.demand text name).snapshot = registry.snapshot :=
  snapshot_append _

/-- A new name comes last. -/
theorem names_append (entry : Entry) :
    (registry.append entry).names =
      registry.names ++ [entry.name].filter fun name => name ∉ registry.names := by
  rw [append]
  by_cases hmem : entry.name ∈ registry.entries.map Entry.name
  · rw [dif_pos hmem, List.filter_singleton, names]
    simp [hmem]
  · rw [dif_neg hmem, List.filter_singleton, names, names, List.map_append]
    simp [hmem]

theorem mem_names_append {entry : Entry} {name : String} :
    name ∈ (registry.append entry).names ↔ name ∈ registry.names ∨ name = entry.name := by
  rw [names_append, List.mem_append, List.mem_filter, List.mem_singleton, decide_eq_true_eq]
  by_cases h : name ∈ registry.names
  · exact iff_of_true (Or.inl h) (Or.inl h)
  · exact or_congr_right (and_iff_left h)

/-- A name that is asked for first goes to the end, and any other changes nothing. -/
theorem names_demand (name : String) :
    (registry.demand text name).names =
      registry.names ++ [name].filter fun name => name ∉ registry.names := by
  rw [demand, names_append, name_initial]

@[simp]
theorem mem_names_demand {name other : String} :
    other ∈ (registry.demand text name).names ↔ other ∈ registry.names ∨ other = name := by
  rw [demand, mem_names_append, name_initial]

/-- Asking for a name that has an entry changes nothing. -/
theorem demand_of_mem {name : String} (h : name ∈ registry.names) :
    registry.demand text name = registry := by
  rw [demand, append, dif_pos]
  rwa [name_initial]

/-- What an entry starts with depends on the removed providers alone. -/
theorem initial_congr {registry₁ registry₂ : Registry} (h : registry₁.removed = registry₂.removed)
    (name : String) (content : Option String) :
    registry₁.initial name content = registry₂.initial name content := by
  cases content <;> simp [initial, h]

/-- **Loading shows nothing new.** -/
@[simp]
theorem entryOf_demand (name other : String) :
    (registry.demand text name).entryOf text other = registry.entryOf text other := by
  have hinitial : (registry.demand text name).initial other (text other) =
      registry.initial other (text other) := initial_congr (removed_append _) _ _
  rw [entryOf, entryOf, hinitial, demand, find?_append, name_initial]
  cases registry.find? other with
  | some found => rfl
  | none =>
    by_cases h : name = other
    · simp [h]
    · simp [h]

/-! ### Changing entries -/

@[simp]
theorem snapshot_update (entry : Entry) :
    (registry.update text entry).snapshot = registry.snapshot := by
  rw [update, replace, mapEntries, snapshot_demand]

/-- An update asks for the name of its entry. -/
@[simp]
theorem mem_names_update {entry : Entry} {name : String} :
    name ∈ (registry.update text entry).names ↔ name ∈ registry.names ∨ name = entry.name := by
  rw [update, names_replace, mem_names_demand]

/-- A changed entry shows under its own name and leaves the other names as they are. -/
theorem entryOf_update (entry : Entry) (name : String) :
    (registry.update text entry).entryOf text name =
      if name = entry.name then entry else registry.entryOf text name := by
  have hinitial : (registry.update text entry).initial name (text name) =
      (registry.demand text entry.name).initial name (text name) := initial_congr rfl _ _
  rw [← registry.entryOf_demand entry.name name, entryOf, hinitial, update, replace,
    find?_mapEntries, entryOf]
  cases hfind : (registry.demand text entry.name).find? name with
  | some found =>
    have hname : found.name = name := (find?_eq_some_iff.mp hfind).2
    simp [hname]
  | none =>
    have hne : name ≠ entry.name := by
      rintro rfl
      exact find?_eq_none_iff.mp hfind (mem_names_demand.mpr (Or.inr rfl))
    simp [hne]

@[simp]
theorem snapshot_register (name provider : String) :
    (registry.register text name provider).snapshot = registry.snapshot :=
  snapshot_update _

/-- A registration asks for its name. -/
@[simp]
theorem mem_names_register {name provider other : String} :
    other ∈ (registry.register text name provider).names ↔
      other ∈ registry.names ∨ other = name := by
  rw [register, mem_names_update, Entry.name_insert, name_entryOf]

/-- A registration adds its provider to its name and nothing to the others. -/
theorem mem_entryOf_register {name provider other held : String} :
    held ∈ ((registry.register text name provider).entryOf text other).providers ↔
      (other, held) = (name, provider) ∨ held ∈ (registry.entryOf text other).providers := by
  rw [register, entryOf_update, Entry.name_insert, name_entryOf]
  by_cases h : other = name
  · simp [h]
  · simp [h]

/-! ### Removing a provider -/

@[simp]
theorem snapshot_remove (provider : String) :
    (registry.remove provider).snapshot = registry.snapshot := rfl

/-- An entry loaded after a removal lacks the removed provider. -/
theorem initial_remove (provider name : String) (content : Option String) :
    (registry.remove provider).initial name content =
      (registry.initial name content).erase provider := by
  cases content with
  | none => rfl
  | some content => simp [initial, remove, Entry.removeAll, Entry.removeAll_fst, List.foldl_append]

/-- **A removal reaches every name**, also those that are not loaded yet. -/
@[simp]
theorem entryOf_remove (provider name : String) :
    (registry.remove provider).entryOf text name =
    (registry.entryOf text name).erase provider := by
  have hfind : (registry.remove provider).find? name =
      (registry.find? name).map (Entry.erase · provider) :=
    find?_mapEntries (f := (Entry.erase · provider)) (h := fun _ => rfl) name
  rw [entryOf, entryOf, hfind, initial_remove]
  cases registry.find? name <;> rfl

/-! ### Was anything changed? -/

/-- No entry is there twice. -/
theorem nodup_entries : registry.entries.Nodup :=
  List.Nodup.of_map _ registry.distinct

/-- **Nothing changed** just when the entries are those that were remembered. -/
theorem isModified_eq_false_iff
    (hsnapshot : ((registry.snapshot.getD []).map Entry.name).Nodup) :
    registry.isModified = false ↔
      ∀ entry, entry ∈ registry.snapshot.getD [] ↔ entry ∈ registry.entries := by
  have hnodup : (registry.snapshot.getD []).Nodup := List.Nodup.of_map _ hsnapshot
  have hunfold : registry.isModified = false ↔
      (registry.snapshot.getD []).length = registry.entries.length ∧
        registry.snapshot.getD [] ⊆ registry.entries := by
    simp [isModified, List.any_eq_false, find?_eq_some_iff, List.subset_def]
  rw [hunfold]
  constructor
  · -- of two lists without repetition, as long as each other, one inside the other is all of it
    rintro ⟨hlength, hsubset⟩ entry
    exact ((hnodup.subperm hsubset).perm_of_length_le (Nat.le_of_eq hlength.symm)).mem_iff
  · intro h
    exact ⟨((List.perm_ext_iff_of_nodup hnodup nodup_entries).mpr h).length_eq,
      fun entry => (h entry).mp⟩

end Registry

end ProviderRegistry
