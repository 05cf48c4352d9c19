import ProviderRegistry.CommandLine.Run

/-!
# The program

Reads the part of the disk that a command line names into a file tree, runs the command line on it,
and brings the disk in step with the tree that comes out.
-/

namespace ProviderRegistry.Disk

/-- More directories than a path of the system can name, one below the other. -/
def maxDepth : Nat := 4096

/-- A location as a path from the root. -/
def pathText (location : Location) : String := "/" ++ "/".intercalate location

/-- The location that a path leads to by its names alone. -/
def locationOf (tree : FileTree) (path : Path) : Location :=
  path.parts.foldl (fun location part =>
    if part = ".." then location.dropLast else location ++ [part])
    (if path.absolute then [] else tree.cwd)

/-- The tree with what the disk has at a location, and the names below that. -/
def readNode (tree : FileTree) (location : Location) : IO (FileTree × List String) := do
  let path := (← IO.currentDir) / pathText location
  if ← path.isDir then
    let names := (← path.readDir).map (·.fileName)
    let tree := if (tree.node? location).isSome then tree else tree.put location .directory
    return (tree, names.toList)
  else if ← path.pathExists then
    return (tree.put location (.file (← IO.FS.readBinFile path)), [])
  else return (tree, [])

/-- The tree with what the disk has at a location and below it. -/
def readAll : Nat → FileTree → Location → IO FileTree
  | 0, _, location => throw (IO.userError s!"Directories are nested too deep: {pathText location}")
  | depth + 1, tree, location => do
    let (tree, names) ← readNode tree location
    names.foldlM (fun tree name => readAll depth tree (location ++ [name])) tree

/-- The tree with what the disk has at a path, and with the directories on the way. -/
def read (tree : FileTree) (path : String) : IO FileTree := do
  let location := locationOf tree (Path.ofString path)
  let tree ← (List.range location.length).foldlM (fun tree n => do
    if (tree.node? (location.take n)).isSome then return tree
    else return (← readNode tree (location.take n)).1) tree
  readAll maxDepth tree location

/-- Two nodes hold the same. -/
def same : Node → Node → Bool
  | .directory, .directory => true
  | .file a, .file b => a.data == b.data
  | _, _ => false

/-- Writes what is new in a tree, and removes the files that are no longer there. -/
def write (old new : FileTree) : IO Unit := do
  for (location, node) in new.nodes do
    let path := (← IO.currentDir) / pathText location
    if !(old.node? location).any (same node) then
      match node with
      | .directory => IO.FS.createDirAll path
      | .file octets => IO.FS.writeBinFile path octets
  for (location, node) in old.nodes do
    if let .file _ := node then
      if (new.node? location).isNone then
        IO.FS.removeFile ((← IO.currentDir) / pathText location)

/-- The tree of a working directory, with nothing read. -/
def start : IO FileTree := do
  let here ← IO.currentDir
  return ⟨(Path.ofString here.toString).parts, []⟩

end ProviderRegistry.Disk

open ProviderRegistry in
/-- Runs the command line. -/
def main (words : List String) : IO UInt32 := do
  let paths := ((CommandLine.Command.ofWords? words).map (·.paths)).getD []
  let tree ← paths.foldlM Disk.read (← Disk.start)
  let outcome := CommandLine.run words tree (← IO.monoMsNow) 0
  Disk.write tree outcome.tree
  IO.print outcome.output
  for printed in outcome.printed do
    IO.println printed.toText
  if let some fault := outcome.fault then
    IO.eprintln fault.message
  if outcome.exitCode = 2 then
    IO.eprint CommandLine.usage
  return outcome.exitCode
