import ProviderRegistry.Path
import ProviderRegistry.Text.Raw
import ProviderRegistry.Text.Utf8
import ProviderRegistry.Text.Newline

/-!
# File trees

The files and directories that the program works on, as a value. A **location** is the sequence of
names that leads to a node from the root; paths are resolved to locations component by component,
which fails where a component on the way is missing or is no directory, or where a name is longer
than a directory can hold.

A tree holds files and directories that can be read, searched and written, and nothing else:
permissions, links and devices are no part of it. Names are texts, so a name whose octets are none
has no place in a tree either.

A failed operation says why in the words of the operating system (`OsFailure.message`). Testing
what a path leads to treats a missing node as an answer and any other failure as a failure.
-/

namespace ProviderRegistry

/-- What the operating system may object to. -/
inductive Errno where
  | noEntry
  | alreadyExists
  | notDirectory
  | isDirectory
  | nameTooLong
  deriving DecidableEq, Repr

namespace Errno

/-- The number of the error. -/
def code : Errno → Nat
  | .noEntry => 2
  | .alreadyExists => 17
  | .notDirectory => 20
  | .isDirectory => 21
  | .nameTooLong => 36

/-- The kind of the error, as it is called where it ends a run. -/
def kind : Errno → String
  | .noEntry => "FileNotFoundError"
  | .alreadyExists => "FileExistsError"
  | .notDirectory => "NotADirectoryError"
  | .isDirectory => "IsADirectoryError"
  | .nameTooLong => "OSError"

/-- The name of the error. -/
def text : Errno → String
  | .noEntry => "No such file or directory"
  | .alreadyExists => "File exists"
  | .notDirectory => "Not a directory"
  | .isDirectory => "Is a directory"
  | .nameTooLong => "File name too long"

end Errno

/-- A failed operation on a path. -/
structure OsFailure where
  errno : Errno
  path : Path
  deriving DecidableEq, Repr

/-- The failure in words: its number, its name and the path between quotes. -/
def OsFailure.message (f : OsFailure) : String :=
  s!"[Errno {f.errno.code}] {f.errno.text}: {Text.quote f.path.toString}"

/-- The names that lead from the root to a node. -/
abbrev Location := List String

/-- A file with its octets, or a directory. -/
inductive Node where
  | file (octets : ByteArray)
  | directory

/-- A **file tree**: the nodes by their location, and the location that relative paths start from.
That location and the ones above it are directories without being listed. -/
structure FileTree where
  cwd : Location
  nodes : List (Location × Node)

namespace FileTree

/-- The longest name that a directory holds, in octets. -/
def maxNameSize : Nat := 255

/-- The longest path that can be asked for, in octets. -/
def maxPathSize : Nat := 4095

/-- The node at a location. -/
def node? (tree : FileTree) (location : Location) : Option Node :=
  if location.isPrefixOf tree.cwd then some .directory
  else (tree.nodes.find? fun entry => entry.1 == location).map (·.2)

/-- Is there a directory at a location? -/
def isDirectoryAt (tree : FileTree) (location : Location) : Bool :=
  match tree.node? location with
  | some .directory => true
  | _ => false

/-- The tree with a node put at a location; a node that was there is replaced in its place. -/
def put (tree : FileTree) (location : Location) (node : Node) : FileTree :=
  if tree.nodes.any fun entry => entry.1 == location then
    { tree with nodes := tree.nodes.map fun entry =>
        if entry.1 == location then (location, node) else entry }
  else { tree with nodes := tree.nodes ++ [(location, node)] }

/-- The tree without a location and what lies below it. -/
def remove (tree : FileTree) (location : Location) : FileTree :=
  { tree with nodes := tree.nodes.filter fun entry => !location.isPrefixOf entry.1 }

/-- The names directly below a location. -/
def namesBelow (tree : FileTree) (location : Location) : List String :=
  tree.nodes.filterMap fun entry =>
    if entry.1.dropLast == location then entry.1.getLast? else none

/-- The name on the way from a location to the one that relative paths start from, if it is above
that one. -/
def nameTowardsCwd? (tree : FileTree) (location : Location) : Option String :=
  if location.isPrefixOf tree.cwd then (tree.cwd.drop location.length).head? else none

/-- The names in a directory, each once. The dots that stand for the directory itself and for the
one above it are not listed, nor is anything else that no file can be called. -/
def namesIn (tree : FileTree) (location : Location) : List String :=
  (tree.namesBelow location ++ (tree.nameTowardsCwd? location).toList).eraseDups.filter
    fun name => Path.IsName name

/-! ### Resolving paths -/

/-- Follows components from a location. Only the last one may lead to nothing. -/
def follow (tree : FileTree) (location : Location) : List String → Except Errno Location
  | [] => .ok location
  | part :: parts =>
    match tree.node? location with
    | none => .error .noEntry
    | some (.file _) => .error .notDirectory
    | some .directory =>
      if part = ".." then tree.follow location.dropLast parts
      else if maxNameSize < part.utf8ByteSize then .error .nameTooLong
      else tree.follow (location ++ [part]) parts

/-- The location that a path leads to; there need not be a node, but there is a directory to hold
it. -/
def resolve (tree : FileTree) (path : Path) : Except OsFailure Location :=
  let found :=
    if maxPathSize < path.toString.utf8ByteSize then .error .nameTooLong
    else tree.follow (if path.absolute then [] else tree.cwd) path.parts
  found.mapError fun errno => ⟨errno, path⟩

/-- A path that leads somewhere has a limited number of components. -/
theorem length_parts_of_resolve {tree : FileTree} {path : Path} {location : Location}
    (h : tree.resolve path = .ok location) : path.parts.length ≤ maxPathSize + 1 := by
  have hsize : path.toString.utf8ByteSize ≤ maxPathSize := by
    simp only [resolve] at h
    split at h
    · cases h
    · rename_i hshort
      exact Nat.le_of_not_lt hshort
  exact Nat.le_trans path.length_parts_le_size (Nat.add_le_add_right hsize 1)

/-- The node that a path leads to. -/
def find (tree : FileTree) (path : Path) : Except OsFailure Node := do
  let location ← tree.resolve path
  match tree.node? location with
  | some node => .ok node
  | none => .error ⟨.noEntry, path⟩

/-- The node that a path leads to, where a path that leads nowhere is no failure. -/
def find? (tree : FileTree) (path : Path) : Except OsFailure (Option Node) :=
  match tree.find path with
  | .ok node => .ok (some node)
  | .error failure =>
    if failure.errno = .noEntry ∨ failure.errno = .notDirectory then .ok none else .error failure

/-- Does the path lead to a directory? -/
def isDirectory (tree : FileTree) (path : Path) : Except OsFailure Bool :=
  (tree.find? path).map fun
    | some .directory => true
    | _ => false

/-- Does the path lead to a file? -/
def isFile (tree : FileTree) (path : Path) : Except OsFailure Bool :=
  (tree.find? path).map fun
    | some (.file _) => true
    | _ => false

/-! ### Reading and writing -/

/-- The octets of a file. -/
def readOctets (tree : FileTree) (path : Path) : Except OsFailure ByteArray := do
  match ← tree.find path with
  | .file octets => .ok octets
  | .directory => .error ⟨.isDirectory, path⟩

/-- A file written anew; the directory that holds it must be there. -/
def writeOctets (tree : FileTree) (path : Path) (octets : ByteArray) :
    Except OsFailure FileTree := do
  let location ← tree.resolve path
  match tree.node? location with
  | some .directory => .error ⟨.isDirectory, path⟩
  | _ => .ok (tree.put location (.file octets))

/-- A file taken away. Nothing else can be taken away so. -/
def removeFile (tree : FileTree) (path : Path) : Except OsFailure FileTree := do
  let location ← tree.resolve path
  match tree.node? location with
  | none => .error ⟨.noEntry, path⟩
  | some .directory => .error ⟨.isDirectory, path⟩
  | some (.file _) => .ok (tree.remove location)

/-- A new directory; the directory that holds it must be there. -/
def makeDirectory (tree : FileTree) (path : Path) : Except OsFailure FileTree := do
  let location ← tree.resolve path
  match tree.node? location with
  | some _ => .error ⟨.alreadyExists, path⟩
  | none => .ok (tree.put location .directory)

/-- After a directory could not be made: no failure if it is there already, else the first failure,
or the failure to find out. -/
def settleDirectory (tree : FileTree) (path : Path) (failure : OsFailure) :
    FileTree × Except OsFailure Unit :=
  match tree.isDirectory path with
  | .ok true => (tree, .ok ())
  | .ok false => (tree, .error failure)
  | .error other => (tree, .error other)

/-- A directory with all the directories above it, unless it is there. What was made before a
failure stays. -/
def makeDirectories (tree : FileTree) (path : Path) : FileTree × Except OsFailure Unit :=
  match tree.makeDirectory path with
  | .ok tree => (tree, .ok ())
  | .error failure =>
    if failure.errno = .noEntry then
      if h : path.parts = [] then (tree, .error failure)
      else
        have : path.parent.parts.length < path.parts.length := by
          have := List.length_pos_iff.2 h
          simp only [Path.parent, List.length_dropLast]
          omega
        match tree.makeDirectories path.parent with
        | (tree, .error failure) => (tree, .error failure)
        | (tree, .ok ()) =>
          match tree.makeDirectory path with
          | .ok tree => (tree, .ok ())
          | .error failure =>
            if failure.errno = .noEntry then (tree, .error failure)
            else tree.settleDirectory path failure
    else tree.settleDirectory path failure
  termination_by path.parts.length

/-! ### Texts in files -/

/-- Why a file could not be read as a text. -/
inductive ReadFailure where
  | os (failure : OsFailure)
  | encoding (fault : Text.Utf8.Fault)

/-- A fault of the encoding in words: the octets, where they stand, and what is wrong with them. -/
def encodingMessage (fault : Text.Utf8.Fault) : String :=
  let which :=
    if fault.width = 1 then
      s!"byte 0x{String.ofList (Text.hexDigits 2 fault.octet.toNat)} in position {fault.position}"
    else s!"bytes in position {fault.position}-{fault.position + fault.width - 1}"
  s!"'utf-8' codec can't decode {which}: {fault.defect.text}"

/-- The failure in words. -/
def ReadFailure.message : ReadFailure → String
  | .os failure => failure.message
  | .encoding fault => encodingMessage fault

/-- The text of a file as some decoding gives it, with its line ends unified. -/
def readTextBy (decode : ByteArray → Except Text.Utf8.Fault String) (tree : FileTree)
    (path : Path) :
    Except ReadFailure String :=
  match tree.readOctets path with
  | .error failure => .error (.os failure)
  | .ok octets =>
    match decode octets with
    | .error fault => .error (.encoding fault)
    | .ok text => .ok (String.ofList (Text.unifyNewlines text.toList))

/-- The text of a file, with its line ends unified. -/
def readText (tree : FileTree) (path : Path) : Except ReadFailure String :=
  readTextBy Text.Utf8.decode tree path

/-- The text of a file that is read piece by piece, with its line ends unified. -/
def readTextInPieces (tree : FileTree) (path : Path) : Except ReadFailure String :=
  readTextBy Text.Utf8.decodeInPieces tree path

/-- The text of a file with its line ends unified and a replacement character for each fault. -/
def readTextLossy (tree : FileTree) (path : Path) : Except OsFailure String := do
  let octets ← tree.readOctets path
  .ok (String.ofList (Text.unifyNewlines (Text.Utf8.decodeLossy octets).toList))

/-- Why a text could not be written to a file. -/
inductive WriteFailure where
  | os (failure : OsFailure)
  | encoding (fault : RawText.Unencodable)
  deriving DecidableEq, Repr

/-- A text written to a file. The file is opened before the octets are asked for, so a text that
has none leaves it empty. -/
def writeText (tree : FileTree) (path : Path) (text : RawText) :
    FileTree × Except WriteFailure Unit :=
  match tree.writeOctets path (text.encode.toOption.getD .empty) with
  | .error failure => (tree, .error (.os failure))
  | .ok written => (written, (text.encode.mapError WriteFailure.encoding).map fun _ => ())

end FileTree

end ProviderRegistry
