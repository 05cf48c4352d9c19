import ProviderRegistry.Proofs.FileTree.Change
import ProviderRegistry.Proofs.FileTree.Lexical
import ProviderRegistry.Proofs.Storage.Directory
import ProviderRegistry.Proofs.Storage.Flat

/-!
# How far a directory reaches

A directory lists, writes and deletes files where its path lies, which is its **place**. What it
has been asked for under a name that is none of a file it may write elsewhere, where the path of
the name lies: the place and those paths are its reach (`Directory.Reach`). Whatever is elsewhere
it leaves as it is, but for directories that it makes where there was nothing
(`FileTree.ChangesWithin`). A storage that does nothing else is **confined**
(`Directory.Confined`). Each call is, also the deletion of all listings, since those that are found
have names of files.
-/

namespace ProviderRegistry

namespace FileTree

variable {tree tree' tree'' : FileTree} {region : Location → Prop} {location : Location}
    {path : Path}

/-- A tree **changes within** a region when it changes nowhere else, except that there may be
directories where there was nothing. -/
structure ChangesWithin (region : Location → Prop) (tree tree' : FileTree) : Prop where
  cwd : tree'.cwd = tree.cwd
  elsewhere (location : Location) (h : ¬ region location) :
    tree'.node? location = tree.node? location ∨
      (tree.node? location = none ∧ tree'.HasDirectory location)

theorem ChangesWithin.refl (region : Location → Prop) (tree : FileTree) :
    ChangesWithin region tree tree :=
  ⟨rfl, fun _ _ => Or.inl rfl⟩

/-- Changes within a region add up to changes within it. -/
theorem ChangesWithin.trans (h : ChangesWithin region tree tree')
    (h' : ChangesWithin region tree' tree'') : ChangesWithin region tree tree'' := by
  refine ⟨h'.cwd.trans h.cwd, fun location hnot => ?_⟩
  rcases h'.elsewhere location hnot with hsame' | ⟨hnone', hmade'⟩
  · rw [hsame', HasDirectory, hsame']
    exact h.elsewhere location hnot
  · rcases h.elsewhere location hnot with hsame | ⟨-, hmade⟩
    · exact Or.inr ⟨hsame ▸ hnone', hmade'⟩
    -- what was made already is not missing now
    · cases hnone'.symm.trans hmade

/-- **No file elsewhere** is lost, changed or new. -/
theorem ChangesWithin.file_iff (h : ChangesWithin region tree tree') (hnot : ¬ region location)
    (octets : ByteArray) :
    tree'.node? location = some (.file octets) ↔ tree.node? location = some (.file octets) := by
  rcases h.elsewhere location hnot with hsame | ⟨hnone, hmade⟩
  · rw [hsame]
  · rw [show tree'.node? location = some .directory from hmade, hnone]
    exact iff_of_false (by rintro ⟨⟩) (by rintro ⟨⟩)

/-- A node that is put into a region changes nothing outside. -/
theorem changesWithin_put (h : region location) (node : Node) :
    ChangesWithin region tree (tree.put location node) := by
  refine ⟨cwd_put node, fun other hnot => Or.inl (node?_put_of_ne ?_ node)⟩
  rintro rfl
  exact hnot h

/-- What is removed goes with everything below it. -/
theorem changesWithin_remove (h : ∀ below, location <+: below → region below) :
    ChangesWithin region tree (tree.remove location) := by
  refine ⟨rfl, fun other hnot => Or.inl ?_⟩
  by_cases habove : other <+: tree.cwd
  · have hkept : (tree.remove location).HasDirectory other := hasDirectory_of_above habove
    exact hkept.trans (hasDirectory_of_above habove).symm
  · rw [node?_remove habove, if_neg fun hbelow => hnot (h other hbelow)]

/-- A directory that is made was not there before, and that is no change of what was. -/
theorem changesWithin_makeDirectory (h : tree.makeDirectory path = .ok tree')
    (region : Location → Prop) : ChangesWithin region tree tree' := by
  obtain ⟨location, -, hput⟩ := bind_eq_ok_iff.mp h
  split at hput
  · cases hput
  · rename_i hnode
    obtain rfl := Except.ok.inj hput
    refine ⟨cwd_put _, fun other _ => ?_⟩
    by_cases heq : other = location
    · have hnot : ¬ location <+: tree.cwd := fun habove => by
        cases hnode.symm.trans (hasDirectory_of_above habove)
      rw [heq]
      exact Or.inr ⟨hnode, node?_put_self hnot _⟩
    · exact Or.inl (node?_put_of_ne heq _)

/-- Directories are made anywhere, but only where there was nothing. -/
theorem changesWithin_makeDirectories (tree : FileTree) (path : Path) (region : Location → Prop) :
    ChangesWithin region tree (tree.makeDirectories path).1 := by
  fun_induction makeDirectories tree path with
  | case1 tree tree' hmade => exact changesWithin_makeDirectory hmade region
  | case2 => exact .refl region _
  | case3 tree failure _ _ _ _ tree' failure' habove ih => rwa [habove] at ih
  | case4 tree failure _ _ _ _ tree' habove tree'' hmade ih =>
    rw [habove] at ih
    exact ih.trans (changesWithin_makeDirectory hmade region)
  | case5 tree failure _ _ _ _ tree' habove failure' _ _ ih => rwa [habove] at ih
  | case6 tree failure _ _ _ _ tree' habove failure' _ _ ih =>
    rw [habove] at ih
    rwa [settleDirectory_fst]
  | case7 tree failure _ _ =>
    rw [settleDirectory_fst]
    exact .refl region _

/-- A file is written where its path lies. -/
theorem changesWithin_writeOctets {octets : ByteArray}
    (h : tree.writeOctets path octets = .ok tree')
    (hregion : region (path.lexical tree.cwd)) : ChangesWithin region tree tree' := by
  obtain ⟨location, hresolve, hput⟩ := bind_eq_ok_iff.mp h
  rw [← lexical_of_resolve hresolve] at hregion
  split at hput
  · cases hput
  · obtain rfl := Except.ok.inj hput
    exact changesWithin_put hregion _

/-- A text that is written changes the file at the end of its path. -/
theorem changesWithin_writeText (tree : FileTree) (text : RawText)
    (hregion : region (path.lexical tree.cwd)) :
    ChangesWithin region tree (tree.writeText path text).1 := by
  rcases writeText_cases tree path text with
    ⟨failure, hfailed⟩ | ⟨octets, written, hwrite, hwritten⟩
  · rw [hfailed]
    exact .refl region tree
  · rw [hwritten]
    exact changesWithin_writeOctets hwrite hregion

/-- A file is taken away where its path lies. -/
theorem changesWithin_removeFile (h : tree.removeFile path = .ok tree')
    (hregion : ∀ below, path.lexical tree.cwd <+: below → region below) :
    ChangesWithin region tree tree' := by
  obtain ⟨location, hresolve, -, rfl⟩ := removeFile_eq_ok_iff.mp h
  rw [← lexical_of_resolve hresolve] at hregion
  exact changesWithin_remove hregion

end FileTree

namespace Directory

open FileTree

variable {directory before between after : Directory} {asked : String → Prop} {name : String}

/-- Where the path of a directory lies. -/
def place (directory : Directory) : Location := directory.resources.lexical directory.tree.cwd

/-- **The place of a directory** that a text names below a root is where the components of the text
lead to from there. -/
theorem place_below (tree : FileTree) (root : Path) (dir tool : String) (clock : ℕ) :
    (below tree root dir tool clock).place = walk (root.lexical tree.cwd) (slashedParts dir) := by
  have hjoin :
      (below tree root dir tool clock).resources = root.join ⟨false, slashedParts dir⟩ := by
    rw [← ofString_normalDirectory]
    rfl
  rw [place, hjoin]
  exact walk_append _ _ _

/-- The **reach** of a directory that is asked for some names: its place with what is below, and
where the paths of the names lie. -/
def Reach (directory : Directory) (asked : String → Prop) (location : Location) : Prop :=
  directory.place <+: location ∨
    ∃ name, asked name ∧ location = (directory.path name).lexical directory.tree.cwd

/-- The path of a listing with the name of a file lies in the place. -/
theorem lexical_path (hname : Path.IsName name) (directory : Directory) :
    (directory.path name).lexical directory.tree.cwd = directory.place ++ [name] :=
  Path.lexical_child hname directory.resources

/-- **Names of files** do not lead out of the place. -/
theorem reach_iff_of_isName (h : ∀ name, asked name → Path.IsName name) {location : Location} :
    directory.Reach asked location ↔ directory.place <+: location := by
  refine or_iff_left_of_imp ?_
  rintro ⟨name, hname, rfl⟩
  rw [lexical_path (h name hname)]
  exact List.prefix_append _ _

/-- The path of a listing is in reach if its name is, or was asked for. -/
theorem reach_path (hname : Path.IsName name ∨ asked name) (directory : Directory) :
    directory.Reach asked ((directory.path name).lexical directory.tree.cwd) := by
  rcases hname with hname | hname
  · rw [lexical_path hname]
    exact Or.inl (List.prefix_append _ _)
  · exact Or.inr ⟨name, hname, rfl⟩

/-- A directory is **confined** to its reach when it is the same as another one but for the tree,
which has changed within the reach alone. -/
structure Confined (asked : String → Prop) (before after : Directory) : Prop where
  root : after.root = before.root
  dir : after.dir = before.dir
  tree : ChangesWithin (before.Reach asked) before.tree after.tree

theorem Confined.refl (asked : String → Prop) (directory : Directory) :
    Confined asked directory directory :=
  ⟨rfl, rfl, .refl _ _⟩

/-- What is in reach stays the same. -/
theorem Confined.reach (h : Confined asked before after) :
    after.Reach asked = before.Reach asked := by
  funext location
  rw [Reach, Reach, place, place, resources, resources, h.root, h.dir, h.tree.cwd]
  simp only [path, resources, h.root, h.dir]

/-- Confined work in sequence is confined. -/
theorem Confined.trans (h : Confined asked before between) (h' : Confined asked between after) :
    Confined asked before after :=
  ⟨h'.root.trans h.root, h'.dir.trans h.dir, h.tree.trans (h.reach ▸ h'.tree)⟩

/-- A file that is written under a name in reach is confined. -/
theorem confined_writeFile (hname : Path.IsName name ∨ asked name) (directory : Directory)
    (text : RawText) : Confined asked directory (directory.writeFile name text).1 := by
  have hmade := changesWithin_makeDirectories directory.tree directory.resources
    (directory.Reach asked)
  rw [writeFile]
  split
  · rename_i tree failure hrun
    rw [hrun] at hmade
    exact ⟨rfl, rfl, hmade⟩
  · rename_i tree hrun
    rw [hrun] at hmade
    have hreach := reach_path hname directory
    rw [← hmade.cwd] at hreach
    exact ⟨rfl, rfl, hmade.trans (changesWithin_writeText tree text hreach)⟩

theorem confined_write (hname : Path.IsName name ∨ asked name) (directory : Directory)
    (content : String) : Confined asked directory (directory.write name content).1 :=
  confined_writeFile hname directory _

/-- A log has a plain name, so keeping it is confined. -/
theorem confined_keepLog (directory : Directory) (text : RawText) :
    Confined asked directory (directory.keepLog text).1 := by
  rw [keepLog]
  split
  · exact .refl asked directory
  · exact confined_writeFile (Or.inl (isName_log directory.clock)) directory text

/-- Files that are removed under plain names are confined. -/
theorem confined_removeFiles {names : List String} (hnames : ∀ name ∈ names, Path.IsName name)
    (directory : Directory) : Confined asked directory (directory.removeFiles names).1 := by
  induction names generalizing directory with
  | nil => exact .refl asked directory
  | cons name names ih =>
    obtain ⟨hname, hnames⟩ := List.forall_mem_cons.mp hnames
    rw [removeFiles]
    split
    · exact .refl asked directory
    · rename_i removed hremove
      have hfirst : Confined asked directory { directory with tree := removed } := by
        refine ⟨rfl, rfl, changesWithin_removeFile hremove fun below hbelow => Or.inl ?_⟩
        rw [lexical_path hname] at hbelow
        exact (List.prefix_append _ _).trans hbelow
      exact hfirst.trans (ih hnames _)

/-- **A listing that is told** is a file in the place of the directory. -/
theorem hasFile_of_mem_names {names : List String} (h : directory.names = .ok names)
    (hname : name ∈ names) : directory.tree.HasFile (directory.place ++ [name]) := by
  obtain ⟨location, hresolve, hfile⟩ := isFile_eq_ok_true_iff.mp (isFile_of_mem_names h hname)
  rwa [lexical_of_resolve hresolve, lexical_path (isName_of_mem_names h hname)] at hfile

/-- A deletion goes by the names that the directory lists, and those are plain. -/
theorem confined_delete (asked : String → Prop) (directory : Directory) :
    Confined asked directory directory.delete.1 := by
  cases hnames : directory.names with
  | error failure =>
    rw [delete_of_failure hnames]
    exact .refl asked directory
  | ok names =>
    rw [delete_of_names hnames]
    exact confined_removeFiles (fun name => isName_of_mem_names hnames) directory

end Directory

end ProviderRegistry
