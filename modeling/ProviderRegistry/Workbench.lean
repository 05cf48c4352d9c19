import ProviderRegistry.Registry
import ProviderRegistry.Storage

/-!
# Workbenches

A registry together with the storage that its entries start from, and the record of what was told.
The first time a name is asked for, its entry is made from its listing (`Work.entry`). Work that
fails keeps what it did before.
-/

namespace ProviderRegistry

/-- A registry, the storage of its listings, and what was told so far. -/
structure Workbench (σ : Type) where
  registry : Registry
  storage : σ
  told : List Event

/-- A new registry over a storage. -/
def Workbench.new {σ : Type} (storage : σ) : Workbench σ := ⟨.empty, storage, []⟩

/-- Work on a workbench, which may fail and then keeps what it did before. -/
abbrev Work (σ α : Type) := EStateM Fault (Workbench σ) α

namespace Work

variable {σ : Type}

/-- Tells events. -/
def tell (events : List Event) : Work σ Unit :=
  modify fun bench => { bench with told := bench.told ++ events }

/-- Work that is decided without the workbench. -/
def ofExcept {α : Type} : Except Fault α → Work σ α
  | .ok value => pure value
  | .error fault => throw fault

/-- Takes an answer of the storage: what it tells, and then its value or its fault. -/
def take {α : Type} (answer : Answer α) : Work σ α := do
  tell answer.told
  ofExcept answer.outcome

/-- The registry as it is. -/
def registry : Work σ Registry := return (← get).registry

/-- Puts another registry on the workbench. -/
def setRegistry (registry : Registry) : Work σ Unit := modify fun bench => { bench with registry }

/-- Lets the storage do something. -/
def store {α : Type} (step : σ → σ × Answer α) : Work σ α := do
  let (storage, answer) := step (← get).storage
  modify fun bench => { bench with storage }
  take answer

/-! ### Entries -/

variable [Storage σ]

/-- Makes the entry of a name that has none. It is kept only once its listing was read. -/
def materialize (name : String) : Work σ Entry := do
  tell [Entry.created name]
  let text ← take (Storage.listing (← get).storage name)
  let registry ← registry
  let entry := registry.initial name text
  tell (registry.initialNotes name text)
  setRegistry (registry.append entry)
  return entry

/-- The entry of a name, made on first demand. -/
def entry (name : Option String) : Work σ Entry := do
  let name ← ofExcept (required "name" name)
  match (← registry).find? name with
  | some entry => return entry
  | none => materialize name

/-- Changes the entry of a name. -/
def changeEntry (name : Option String) (change : Entry → Except Fault (Entry × List Event)) :
    Work σ Entry := do
  let old ← entry name
  let (new, told) ← ofExcept (change old)
  tell told
  setRegistry ((← registry).replace new)
  return old

/-- Gives the entry of a name one more provider. -/
def add (name provider : Option String) : Work σ Unit := do
  discard <| changeEntry name (Entry.add · provider)

/-- Takes a provider from the entry of a name, and says whether it was there. -/
def removeFrom (name provider : Option String) : Work σ Bool := do
  return (← changeEntry name (Entry.remove · provider)).contains provider

/-- Gives the entry of a name all providers of a listing. -/
def load (name text : Option String) : Work σ Unit := do
  discard <| changeEntry name (Entry.load · text)

/-- Takes a provider from all entries, also from those that are made later. -/
def remove (provider : Option String) : Work σ Unit := do
  let provider ← ofExcept (required "provider" provider)
  let registry ← registry
  tell (registry.removeNotes provider)
  setRegistry (registry.remove provider)

/-- Remembers the entries, to say later whether anything changed. -/
def cache : Work σ Unit := do setRegistry (← ofExcept (← registry).cache)

/-- Makes the entries of all names that have a listing, and remembers them. -/
def openSession : Work σ Unit := do
  let names ← take (Storage.names (← get).storage)
  names.forM fun name => discard <| entry (some name)
  cache

end Work

end ProviderRegistry
