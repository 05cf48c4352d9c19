import ProviderRegistry.FileTree

/-!
# Faults

Why an operation gave no answer. A missing or empty identifier is a mistake of the caller; a
failure of the storage is none, and a session reports it and goes on.
-/

namespace ProviderRegistry

/-- Why a storage could not write or delete. -/
inductive StorageFailure where
  | writeRefused (name : String)
  | deleteRefused
  | write (target : String) (cause : OsFailure)
  | delete (target : String) (cause : OsFailure)
  deriving DecidableEq, Repr

/-- The failure in words. -/
def StorageFailure.message : StorageFailure → String
  | .writeRefused name => s!"Could not write '{name}'"
  | .deleteRefused => "Could not delete resources"
  | .write target cause => s!"Could not write '{target}': {cause.message}"
  | .delete target cause => s!"Could not delete '{target}': {cause.message}"

/-- Why an operation gave no answer. -/
inductive Fault where
  /-- Something that must be given is missing. -/
  | missing (what : String)
  /-- A provider without a name was to be added. -/
  | emptyProvider
  /-- A declaration without a name was to be described. -/
  | nameless
  /-- The registry remembers a state already. -/
  | snapshotTaken
  /-- The session is over. -/
  | finished
  /-- A file lies outside of the root that it is to be seen from. -/
  | outside (file root : Path)
  /-- A path has no last component to name something by. -/
  | unnamed (path : Path)
  | storage (failure : StorageFailure)
  | os (failure : OsFailure)
  /-- A text was to be written that has no octets. -/
  | encoding (fault : RawText.Unencodable)
  deriving DecidableEq, Repr

/-- The fault in words. -/
def Fault.message : Fault → String
  | .missing what => s!"{what} must not be None"
  | .emptyProvider => "provider must not be None or empty"
  | .nameless => "declaration has no name"
  | .snapshotTaken => "Registry snapshot already taken"
  | .finished => "Session already finished; no further rounds accepted"
  | .outside file root =>
    s!"{Text.quote file.toString} is not in the subpath of {Text.quote root.toString} " ++
      "OR one path is relative and the other is absolute."
  | .unnamed path => s!"PosixPath({Text.quote path.toString}) has an empty name"
  | .storage failure => failure.message
  | .os failure => failure.message
  | .encoding fault => fault.message

/-- A value that must be given. -/
def required {α : Type} (what : String) : Option α → Except Fault α
  | some value => .ok value
  | none => .error (.missing what)

end ProviderRegistry
