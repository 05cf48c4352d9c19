import ProviderRegistry.Fault
import ProviderRegistry.Journal
import ProviderRegistry.Listing
import ProviderRegistry.ProviderSet

/-!
# Entries

An entry is a name with the set of its providers. Its operations come in two forms: on the entry
alone (`insert`, `erase`, `insertAll`), and as the registry uses them (`add`, `remove`, `load`),
where the provider may turn out to be missing and the change is told.
-/

namespace ProviderRegistry

/-- A name and the set of its providers. -/
structure Entry where
  name : String
  providers : ProviderSet
  deriving DecidableEq

namespace Entry

/-- The entry of a name that nothing provides yet. -/
def bare (name : String) : Entry := ⟨name, .empty⟩

/-- The entry with one more provider. -/
def insert (entry : Entry) (provider : String) : Entry :=
  { entry with providers := entry.providers.insert provider }

/-- The entry without a provider. -/
def erase (entry : Entry) (provider : String) : Entry :=
  { entry with providers := entry.providers.erase provider }

/-- The entry with some more providers. -/
def insertAll (entry : Entry) (providers : List String) : Entry :=
  { entry with providers := entry.providers.insertAll providers }

/-- Does the entry hold a provider? Something without a name it never holds. -/
def contains (entry : Entry) : Option String → Bool
  | none => false
  | some provider => provider ∈ entry.providers

/-- The listing of the entry. -/
def render (entry : Entry) : String := Listing.render entry.providers.toList

/-- The entry on one line: its name and its providers between quotes. -/
def describe (entry : Entry) : String :=
  s!"{entry.name}={Text.bracketed (entry.providers.toList.map Text.quote)}"

/-! ### Telling what changes -/

/-- An entry comes into being. -/
def created (name : String) : Event := .logged s!"Creating {name}"

/-- An entry is given a provider, which it may hold already. -/
def adding (name provider : String) : Event := .logged s!"Adding {provider} to {name}"

/-- An entry lost a provider. -/
def removing (name provider : String) : Event := .logged s!"Removing {provider} from {name}"

/-- A new entry. -/
def create (name : Option String) : Except Fault (Entry × List Event) := do
  let name ← required "name" name
  .ok (bare name, [created name])

/-- The entry given one more provider, which must have a name. -/
def add (entry : Entry) : Option String → Except Fault (Entry × List Event)
  | none | some "" => .error .emptyProvider
  | some provider => .ok (entry.insert provider, [adding entry.name provider])

/-- What the removal of a provider from an entry tells: nothing where the entry does not hold
it. -/
def removalNotes (entry : Entry) (provider : String) : List Event :=
  if provider ∈ entry.providers then [removing entry.name provider] else []

/-- The entry without a provider. -/
def remove (entry : Entry) (provider : Option String) : Except Fault (Entry × List Event) := do
  let provider ← required "provider" provider
  .ok (entry.erase provider, entry.removalNotes provider)

/-- The entry without some providers, taken out one after the other. -/
def removeAll (entry : Entry) (providers : List String) : Entry × List Event :=
  providers.foldl (fun (entry, told) provider =>
    (entry.erase provider, told ++ entry.removalNotes provider)) (entry, [])

/-- What the reading of a listing tells. -/
def loadNotes (name text : String) : List Event := (Listing.parse text).map (adding name)

/-- The entry with all providers of a listing. -/
def load (entry : Entry) (text : Option String) : Except Fault (Entry × List Event) := do
  let text ← required "text" text
  .ok (entry.insertAll (Listing.parse text), loadNotes entry.name text)

/-! ### Changes that are accepted -/

/-- Adding a provider that is there and not empty succeeds and is told. -/
theorem add_some {entry : Entry} {provider : String} (h : provider ≠ "") :
    entry.add (some provider) = .ok (entry.insert provider, [adding entry.name provider]) := by
  rw [Entry.add]
  rintro rfl
  exact h rfl

theorem remove_some {entry : Entry} {provider : String} :
    entry.remove (some provider) = .ok (entry.erase provider, entry.removalNotes provider) := rfl

theorem load_some {entry : Entry} {text : String} :
    entry.load (some text) =
      .ok (entry.insertAll (Listing.parse text), loadNotes entry.name text) := rfl

/-! ### Names and members -/

@[simp]
theorem name_bare (name : String) : (bare name).name = name := rfl

@[simp]
theorem name_insert (entry : Entry) (p : String) : (entry.insert p).name = entry.name := rfl

@[simp]
theorem name_erase (entry : Entry) (p : String) : (entry.erase p).name = entry.name := rfl

@[simp]
theorem name_insertAll (entry : Entry) (ps : List String) :
    (entry.insertAll ps).name = entry.name := rfl

@[simp]
theorem providers_insert (entry : Entry) (p : String) :
    (entry.insert p).providers = entry.providers.insert p := rfl

@[simp]
theorem providers_erase (entry : Entry) (p : String) :
    (entry.erase p).providers = entry.providers.erase p := rfl

@[simp]
theorem providers_insertAll (entry : Entry) (ps : List String) :
    (entry.insertAll ps).providers = entry.providers.insertAll ps := rfl

/-- What is told meanwhile does not bear on the entry. -/
theorem removeAll_fst (entry : Entry) (ps : List String) (told : List Event) :
    (ps.foldl (fun (entry, told) provider =>
      (Entry.erase entry provider, told ++ Entry.removalNotes entry provider)) (entry, told)).1 =
      ps.foldl erase entry := by
  induction ps generalizing entry told with
  | nil => rfl
  | cons p ps ih => exact ih ..

@[simp]
theorem name_foldl_erase (entry : Entry) (ps : List String) :
    (ps.foldl erase entry).name = entry.name := by
  induction ps generalizing entry with
  | nil => rfl
  | cons p ps ih => exact ih (entry.erase p)

@[simp]
theorem name_removeAll (entry : Entry) (ps : List String) :
    (entry.removeAll ps).1.name = entry.name := by
  simp [removeAll, removeAll_fst]

end Entry

end ProviderRegistry
