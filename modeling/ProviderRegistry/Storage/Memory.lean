import ProviderRegistry.Storage

/-!
# Storage in memory

A storage that keeps its listings as a value, with a record of what was asked of it. It can be told
to refuse some writes, or to refuse to delete.
-/

namespace ProviderRegistry

/-- Listings by name in the order in which the names came, and a record of the calls. -/
structure Memory where
  resources : List (String × String)
  tool : String := toolName
  logs : List RawText := []
  refusedWrites : List String := []
  refusesDelete : Bool := false
  written : List String := []
  deleteCalls : Nat := 0

namespace Memory

/-- The names that have a listing. -/
def names (memory : Memory) : List String :=
  (memory.resources.map (·.1)).filter fun name => !Listing.isLogName name

/-- The text that is kept under a name. -/
def listing? (memory : Memory) (name : String) : Option String := memory.resources.lookup name

/-- Some texts by name with one text put under a name, in its old place if it has one. -/
def put (resources : List (String × String)) (name text : String) : List (String × String) :=
  if resources.any (·.1 == name) then
    resources.map fun entry => if entry.1 == name then (name, text) else entry
  else resources ++ [(name, text)]

/-- Writes a listing, unless the name is one of those that are refused. -/
def write (memory : Memory) (name content : String) : Memory × Except Fault Unit :=
  if name ∈ memory.refusedWrites then (memory, .error (.storage (.writeRefused name)))
  else
    ({ memory with
        resources := put memory.resources name (Listing.header memory.tool ++ content)
        written := memory.written ++ [name] }, .ok ())

/-- Deletes all listings and leaves the logs, unless that is refused. -/
def delete (memory : Memory) : Memory × Except Fault Unit :=
  let called := { memory with deleteCalls := memory.deleteCalls + 1 }
  if memory.refusesDelete then (called, .error (.storage .deleteRefused))
  else
    ({ called with resources := memory.resources.filter fun entry => Listing.isLogName entry.1 },
      .ok ())

/-- Keeps a log, unless it is empty. -/
def keepLog (memory : Memory) (text : RawText) : Memory :=
  if text.isEmpty then memory else { memory with logs := memory.logs ++ [text] }

end Memory

instance : Storage Memory where
  names memory := .silent (.ok memory.names)
  listing memory name := .silent (.ok (memory.listing? name))
  write memory name content := (memory.write name content).map id .silent
  delete memory := memory.delete.map id .silent
  keepLog memory text := (memory.keepLog text, .silent (.ok ()))

end ProviderRegistry
