import ProviderRegistry.Storage

/-!
# Storage in a directory

A storage that keeps each listing as a file of its name in one directory below a root. Logs are
files beside them, each named for the moment in which it was written.
-/

namespace ProviderRegistry

/-- A directory below a root of a file tree, as a storage of listings. -/
structure Directory where
  tree : FileTree
  root : Path
  /-- Where the directory is below the root, in normal form. -/
  dir : String
  tool : String
  /-- The time in milliseconds, which names the logs. -/
  clock : Nat

namespace Directory

/-- The storage in the directory that a text names below a root. -/
def below (tree : FileTree) (root : Path) (dir tool : String) (clock : Nat) : Directory :=
  { tree, root, dir := normalDirectory (some dir), tool, clock }

/-- The directory of the listings. -/
def resources (directory : Directory) : Path := directory.root.child directory.dir

/-- The path of the listing of a name. -/
def path (directory : Directory) (name : String) : Path := directory.resources.child name

/-- How a listing is called in messages. -/
def shownName (directory : Directory) (name : String) : String := directory.dir ++ name

/-- The names of the files in the directory that are no logs, in ascending order. -/
def names (directory : Directory) : Except OsFailure (List String) := do
  if ← directory.tree.isDirectory directory.resources then
    let location ← directory.tree.resolve directory.resources
    (Listing.ascending (directory.tree.namesIn location)).filterM fun name => do
      return (← directory.tree.isFile (directory.path name)) && !Listing.isLogName name
  else return []

/-- What is told of each listing that is found. -/
def discovered (name : String) : Event := .logged s!"Discovered {name}"

/-- The listing of a name. A file that cannot be read counts as none, which is told. -/
def listing (directory : Directory) (name : String) : Answer (Option String) :=
  match directory.tree.isFile (directory.path name) with
  | .error failure => .silent (.error (.os failure))
  | .ok false => .silent (.ok none)
  | .ok true =>
    match directory.tree.readText (directory.path name) with
    | .ok text => .silent (.ok (some text))
    | .error failure =>
      ⟨[.note .messages
        s!"Could not read '{directory.shownName name}': {failure.message}"], .ok none⟩

/-- Writes a file of the directory, which is made first if need be. -/
def writeFile (directory : Directory) (name : String) (text : RawText) :
    Directory × Except FileTree.WriteFailure Unit :=
  match directory.tree.makeDirectories directory.resources with
  | (tree, .error failure) => ({ directory with tree }, .error (.os failure))
  | (tree, .ok ()) =>
    let (tree, outcome) := tree.writeText (directory.path name) text
    ({ directory with tree }, outcome)

/-- The fault of a listing that could not be written. Only what the system says is a failure of the
storage. -/
def writeFault (directory : Directory) (name : String) : FileTree.WriteFailure → Fault
  | .os cause => .storage (.write (directory.shownName name) cause)
  | .encoding fault => .encoding fault

/-- Writes a listing under the comment that names the tool, which is told. -/
def write (directory : Directory) (name content : String) : Directory × Answer Unit :=
  let text := Listing.header directory.tool ++ content
  let (after, outcome) := directory.writeFile name text
  (after,
    { told := [.note .both s!"Generating file '{directory.shownName name}'"]
      outcome := outcome.mapError (directory.writeFault name) })

/-- Takes away some files of the directory, up to the first that cannot be taken away. -/
def removeFiles (directory : Directory) : List String → Directory × Except Fault Unit
  | [] => (directory, .ok ())
  | name :: names =>
    match directory.tree.removeFile (directory.path name) with
    | .error cause => (directory, .error (.storage (.delete (directory.shownName name) cause)))
    | .ok tree => removeFiles { directory with tree } names

/-- Deletes all listings and leaves the logs. -/
def delete (directory : Directory) : Directory × Answer Unit :=
  match directory.names with
  | .error failure => (directory, .silent (.error (.os failure)))
  | .ok names => (directory.removeFiles names).map id fun outcome =>
    ⟨names.map discovered, outcome⟩

/-- What comes of a log that was written to a file: a failure of the system is passed over. -/
def logOutcome : Except FileTree.WriteFailure Unit → Except Fault Unit
  | .error (.encoding fault) => .error (.encoding fault)
  | _ => .ok ()

/-- Keeps a log in a file named for the time, unless it is empty. -/
def keepLog (directory : Directory) (text : RawText) : Directory × Answer Unit :=
  if text.isEmpty then (directory, .silent (.ok ()))
  else
    (directory.writeFile s!"log{directory.clock}.log" text).map id fun outcome =>
      .silent (logOutcome outcome)

end Directory

instance : Storage Directory where
  names directory :=
    match directory.names with
    | .ok names => ⟨names.map Directory.discovered, .ok names⟩
    | .error failure => .silent (.error (.os failure))
  listing := Directory.listing
  write := Directory.write
  delete := Directory.delete
  keepLog := Directory.keepLog

end ProviderRegistry
