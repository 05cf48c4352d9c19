import ProviderRegistry.Entry

/-!
# Registries

A **registry** holds the entries of one session in the order in which they were asked for, at most
one for a name. It remembers every provider that was removed, so that an entry which is loaded
later loses it too, and it can remember its entries once, to say afterwards whether anything
changed.
-/

namespace ProviderRegistry

/-- The entries of a session, no two of one name; what they were at the moment to compare with; and
the providers removed so far. -/
structure Registry where
  entries : List Entry
  snapshot : Option (List Entry)
  removed : List String
  distinct : (entries.map Entry.name).Nodup

namespace Registry

/-- A registry that nothing was asked of yet. -/
def empty : Registry := ⟨[], none, [], .nil⟩

/-- The names of the entries in the order in which they were first asked for. -/
def names (registry : Registry) : List String := registry.entries.map Entry.name

/-- The entry of a name. -/
def find? (registry : Registry) (name : String) : Option Entry :=
  registry.entries.find? fun entry => entry.name == name

/-- Has a name an entry? Something without a name has none. -/
def contains (registry : Registry) : Option String → Bool
  | none => false
  | some name => (registry.find? name).isSome

/-- Changes entries without renaming them. -/
def mapEntries (registry : Registry) (f : Entry → Entry)
    (h : ∀ entry, (f entry).name = entry.name) :
    Registry where
  entries := registry.entries.map f
  snapshot := registry.snapshot
  removed := registry.removed
  distinct := by
    have : Entry.name ∘ f = Entry.name := funext h
    simpa [List.map_map, this] using registry.distinct

/-- The registry with another entry in the place of the one of the same name. -/
def replace (registry : Registry) (entry : Entry) : Registry :=
  registry.mapEntries (fun old => if old.name = entry.name then entry else old) fun old => by
    split
    · rename_i h
      exact h.symm
    · rfl

/-- The registry with one more entry at the end, unless its name has one. -/
def append (registry : Registry) (entry : Entry) : Registry :=
  if h : entry.name ∈ registry.entries.map Entry.name then registry
  else
    { registry with
      entries := registry.entries ++ [entry]
      distinct := by
        rw [List.map_append]
        refine List.nodup_append.2 ⟨registry.distinct, by simp, fun a ha b hb => ?_⟩
        rintro rfl
        simp only [List.map_cons, List.map_nil, List.mem_singleton] at hb
        exact h (hb ▸ ha) }

/-- The entry that a name starts with, given its listing: without a listing a bare one, else what
the listing holds less the providers removed so far. -/
def initial (registry : Registry) (name : String) : Option String → Entry
  | none => .bare name
  | some text =>
    (((Entry.bare name).insertAll (Listing.parse text)).removeAll registry.removed).1

/-- What is told when an entry takes its start from a listing. -/
def initialNotes (registry : Registry) (name : String) : Option String → List Event
  | none => []
  | some text =>
    Entry.loadNotes name text ++
      (((Entry.bare name).insertAll (Listing.parse text)).removeAll registry.removed).2

/-- The registry without a provider: no entry holds it, nor will one that is loaded later. -/
def remove (registry : Registry) (provider : String) : Registry :=
  { registry.mapEntries (Entry.erase · provider) fun _ => rfl with
    removed := registry.removed ++ [provider] }

/-- What the removal of a provider tells. -/
def removeNotes (registry : Registry) (provider : String) : List Event :=
  .logged s!"Removing {provider}" ::
    registry.entries.flatMap fun entry => entry.removalNotes provider

/-- Was the state to compare with remembered? -/
def isCached (registry : Registry) : Bool := registry.snapshot.isSome

/-- The registry that remembers its entries, unless it does so already. -/
def cache (registry : Registry) : Except Fault Registry :=
  if registry.isCached then .error .snapshotTaken
  else .ok { registry with snapshot := some registry.entries }

/-- Did anything change since the entries were remembered? An entry that came since is a change,
even if it is bare; so is every entry where nothing was remembered. -/
def isModified (registry : Registry) : Bool :=
  let snapshot := registry.snapshot.getD []
  snapshot.length != registry.entries.length ||
    snapshot.any fun entry => registry.find? entry.name != some entry

/-- The registry on one line. -/
def describe (registry : Registry) : String :=
  Text.bracketed (registry.entries.map Entry.describe)

@[simp]
theorem names_mapEntries (registry : Registry) (f : Entry → Entry)
    (h : ∀ entry, (f entry).name = entry.name) :
    (registry.mapEntries f h).names = registry.names := by
  have : Entry.name ∘ f = Entry.name := funext h
  simp [names, mapEntries, List.map_map, this]

@[simp]
theorem names_replace (registry : Registry) (entry : Entry) :
    (registry.replace entry).names = registry.names := names_mapEntries ..

@[simp]
theorem names_remove (registry : Registry) (provider : String) :
    (registry.remove provider).names = registry.names :=
  names_mapEntries registry (Entry.erase · provider) fun _ => rfl

@[simp]
theorem name_initial (registry : Registry) (name : String) (text : Option String) :
    (registry.initial name text).name = name := by
  cases text <;> simp [initial]

/-- A name has an entry just when it is one of the names. -/
theorem contains_some_iff {registry : Registry} {name : String} :
    registry.contains (some name) = true ↔ name ∈ registry.names := by
  simp [contains, find?, names, List.find?_isSome]

end Registry

end ProviderRegistry
