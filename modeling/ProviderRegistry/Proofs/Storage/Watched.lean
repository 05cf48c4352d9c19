import ProviderRegistry.Proofs.Workbench

/-!
# Watched storages

A storage with a record of every call that may change it, also of those that it refuses and of
those that come to nothing. It offers what the storage under it offers (`Watched.offers`), so work
that settles over every storage cannot tell the two apart.
-/

namespace ProviderRegistry

/-- A call that may change a storage. -/
inductive Call where
  | write (name content : String)
  | delete
  | keepLog (text : RawText)
  deriving DecidableEq, Repr

/-- A storage that is **watched**: every call that may change it is recorded. -/
structure Watched (σ : Type) where
  storage : σ
  calls : List Call := []

namespace Watched

variable {σ : Type} [Storage σ]

instance : Storage (Watched σ) where
  names watched := Storage.names watched.storage
  listing watched := Storage.listing watched.storage
  write watched name content :=
    let (storage, answer) := Storage.write watched.storage name content
    (⟨storage, watched.calls ++ [.write name content]⟩, answer)
  delete watched :=
    let (storage, answer) := Storage.delete watched.storage
    (⟨storage, watched.calls ++ [.delete]⟩, answer)
  keepLog watched text :=
    let (storage, answer) := Storage.keepLog watched.storage text
    (⟨storage, watched.calls ++ [.keepLog text]⟩, answer)

/-- A log is kept as in the storage that is watched. -/
theorem keepLog_eq {watched : Watched σ} {text : RawText} {kept : σ} {answer : Answer Unit}
    (h : Storage.keepLog watched.storage text = (kept, answer)) :
    Storage.keepLog watched text = (⟨kept, watched.calls ++ [.keepLog text]⟩, answer) := by
  have hcall : Storage.keepLog watched text =
      (⟨(Storage.keepLog watched.storage text).1, watched.calls ++ [.keepLog text]⟩,
        (Storage.keepLog watched.storage text).2) := rfl
  rw [hcall, h]

theorem offers {storage : σ} {names : List String} {text : String → Option String}
    (h : Storage.Offers storage names text) (calls : List Call) :
    Storage.Offers (⟨storage, calls⟩ : Watched σ) names text :=
  ⟨h.names, h.listing⟩

end Watched

end ProviderRegistry
