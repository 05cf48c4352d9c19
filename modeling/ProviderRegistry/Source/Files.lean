import ProviderRegistry.Fault
import ProviderRegistry.Source.Declared
import ProviderRegistry.Source.Parse

/-!
# Source trees

The modules below a root directory. Directories that hold no sources of the project are left out:
the hidden ones, and those that tools make. A module is named by the way from the root to its file;
a package is a module in a file of its own name.
-/

namespace ProviderRegistry.Source

/-- The directories that are always left out. -/
def skippedDirectories : List String :=
  [".git", "__pycache__", ".venv", "venv", ".env", "dist", "build", ".tox", ".mypy_cache",
    ".pytest_cache", ".ruff_cache", "node_modules"]

/-- Is a directory left out? -/
def isSkipped (name : String) : Bool :=
  name ∈ skippedDirectories || name.toList.head? = some '.'

/-- The end of the name of a source file. -/
def sourceSuffix : String := ".py"

/-- The name of the file of a package. -/
def packageFile : String := "__init__.py"

/-- Is a name one of a source file? -/
def isSourceName (name : String) : Bool := sourceSuffix.toList.isSuffixOf name.toList

/-- Does no directory on the way from the root leave a file out? -/
def isIncluded (relative : Path) : Bool := !relative.parts.dropLast.any isSkipped

/-- The files below a directory that have the name of a source file, as they are met: those in the
directory itself, then those below each directory in it. Every directory is looked into, and of
everything with such a name it is asked whether it is a file. -/
def filesBelow (tree : FileTree) (path : Path) : Except OsFailure (List Path) :=
  match _h : tree.resolve path with
  | .error failure => .error failure
  | .ok location => do
    let names := tree.namesIn location
    let files ← ((names.filter isSourceName).map path.entry).filterM tree.isFile
    let directories := names.filter fun name => tree.isDirectoryAt (location ++ [name])
    return files ++ (← directories.mapM fun name => filesBelow tree (path.entry name)).flatten
  termination_by FileTree.maxPathSize + 2 - path.parts.length
  decreasing_by
    -- a path that leads somewhere has no more components than octets
    have hlength := FileTree.length_parts_of_resolve _h
    rw [Path.parts_entry, List.length_append, List.length_singleton]
    omega

/-- The source files below a root, in ascending order of their paths. A root that is no directory
has none. -/
def sourceFiles (tree : FileTree) (root : Path) : Except OsFailure (List Path) := do
  if ← tree.isDirectory root then
    let files := (← filesBelow tree root).filter fun file => (file.relativeTo? root).any isIncluded
    return files.mergeSort fun file other => Path.partsAscend file.parts other.parts
  else return []

/-- A file as it is seen from a root, if it lies below it. -/
def seenFrom (file root : Path) : Except Fault Path :=
  match file.relativeTo? root with
  | some relative => .ok relative
  | none => .error (.outside file root)

/-- The name of the module in a file. -/
def moduleName (file root : Path) : Except Fault String := do
  let relative ← seenFrom file root
  if relative.parts.isEmpty then throw (.unnamed relative)
  let parts := relative.partsWithoutSuffix
  return ofDottedParts (if parts.getLast? = some "__init__" then parts.dropLast else parts)

/-- The package that a module in a file belongs to: itself, or the one around it. -/
def packageOf (file : Path) (module : String) : String :=
  if file.name = packageFile then module else enclosingName module

/-- What a file declares. A file that cannot be parsed declares nothing. -/
def declaredInFile (tree : FileTree) (file root : Path) : Except Fault DeclaringModule := do
  let name ← moduleName file root
  let path := (← seenFrom file root).toString
  match tree.readTextLossy file with
  | .error failure => throw (.os failure)
  | .ok text =>
    match parse text with
    | .ok body => return .ofBody name (packageOf file name) path body
    | .error line =>
      return { name, path, topLevel := [], marked := [], syntaxError := some s!"{path}:{line}" }

/-- What all source files below a root declare, file by file. -/
def declaredBelow (tree : FileTree) (root : Path) : Except Fault (List DeclaringModule) := do
  let files ← (sourceFiles tree root).mapError Fault.os
  files.mapM fun file => declaredInFile tree file root

end ProviderRegistry.Source
