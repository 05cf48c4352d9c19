import ProviderRegistry.Fault
import ProviderRegistry.Journal
import ProviderRegistry.Listing

/-!
# Storages

A **storage** keeps one listing for each name between two runs, and logs beside them. What it is
asked may fail; only a failed write or delete is a failure of the storage itself, which a session
survives. Listings are strings, while a log may hold surrogates that came in with the options.
-/

namespace ProviderRegistry

/-- The tool that writes listings unless another name is given. -/
def toolName : String := "provreg (0.3.0)"

/-- What a storage answers: what it tells meanwhile, and a value or the reason why there is
none. -/
structure Answer (α : Type) where
  told : List Event
  outcome : Except Fault α

/-- An answer that tells nothing. -/
def Answer.silent {α : Type} (outcome : Except Fault α) : Answer α := ⟨[], outcome⟩

/-- A storage of listings. -/
class Storage (σ : Type) where
  /-- The names that have a listing; logs are none. -/
  names : σ → Answer (List String)
  /-- The listing of a name, if it has one that can be read. -/
  listing : σ → String → Answer (Option String)
  /-- Writes a listing anew, under the comment that names the tool. -/
  write : σ → String → String → σ × Answer Unit
  /-- Deletes all listings. -/
  delete : σ → σ × Answer Unit
  /-- Keeps a log, unless it is empty. -/
  keepLog : σ → RawText → σ × Answer Unit

end ProviderRegistry
