import ProviderRegistry.Proofs.FileTree.Change
import ProviderRegistry.Proofs.FileTree.WellFormed
import ProviderRegistry.Storage.Directory

/-!
# What a directory holds

A storage in a directory **holds** a name (`Holds`) when the path of its listing leads to a file in
the directory. That is so after the listing was written (`holds_of_writeFile`), and stays so
whatever else is written (`Holds.of_extends`). As long as it is so, whenever the directory tells
its names at all, this name is among them unless it is the name of a log (`Holds.mem_names`). A
deletion that succeeds takes the file away (`Holds.isFile_delete`).

A directory does not tell its names when it has a file whose path is longer than can be asked for.
When there is no such file it does (`Holds.exists_names`). That is the only thing that a deletion
can fail over: every file that is told can be taken away (`removeFiles_of_names`).
-/

namespace ProviderRegistry

namespace Directory

variable {directory before after : Directory} {name : String}

/-! ### Files in the directory -/

/-- A directory **holds** a name when the path of its listing leads to a file in the directory. -/
def Holds (directory : Directory) (name : String) : Prop :=
  Path.IsName name ∧ ∃ location, directory.tree.resolve directory.resources = .ok location ∧
    directory.tree.HasDirectory location ∧
    directory.tree.resolve (directory.path name) = .ok (location ++ [name]) ∧
    directory.tree.HasFile (location ++ [name])

theorem Holds.isFile (h : directory.Holds name) :
    directory.tree.isFile (directory.path name) = .ok true := by
  obtain ⟨-, location, -, -, hpath, hfile⟩ := h
  exact FileTree.isFile_eq_ok_true_iff.mpr ⟨location ++ [name], hpath, hfile⟩

/-- A directory **extends** another one when it is the same directory of a tree that extends the
tree. -/
structure Extends (before after : Directory) : Prop where
  root : after.root = before.root
  dir : after.dir = before.dir
  tree : before.tree.Extends after.tree

theorem Extends.resources (h : before.Extends after) : after.resources = before.resources := by
  rw [Directory.resources, Directory.resources, h.root, h.dir]

theorem Extends.path (h : before.Extends after) (name : String) :
    after.path name = before.path name := by
  rw [Directory.path, Directory.path, h.resources]

theorem Extends.refl (directory : Directory) : directory.Extends directory :=
  ⟨rfl, rfl, .refl directory.tree⟩

/-- **What a directory holds** it holds whatever is written. -/
theorem Holds.of_extends (h : before.Holds name) (hextends : before.Extends after) :
    after.Holds name := by
  obtain ⟨hname, location, hresources, hdirectory, hpath, hfile⟩ := h
  have hsupports := hextends.tree.supports
  refine ⟨hname, location, ?_, hextends.tree.directory location hdirectory, ?_,
    hextends.tree.file _ hfile⟩
  · rw [hextends.resources]
    exact hsupports.resolve hresources
  · rw [hextends.path]
    exact hsupports.resolve hpath

/-! ### Writing -/

theorem extends_writeFile (directory : Directory) (name : String) (text : RawText) :
    directory.Extends (directory.writeFile name text).1 := by
  have hmade := FileTree.extends_makeDirectories directory.tree directory.resources
  rw [writeFile]
  split
  · rename_i hrun
    rw [hrun] at hmade
    exact ⟨rfl, rfl, hmade⟩
  · rename_i tree hrun
    rw [hrun] at hmade
    have hwritten := FileTree.extends_writeText tree (directory.path name) text
    exact ⟨rfl, rfl, hmade.trans hwritten⟩

theorem extends_keepLog (directory : Directory) (text : RawText) :
    directory.Extends (directory.keepLog text).1 := by
  rw [keepLog]
  split
  · exact .refl directory
  · exact extends_writeFile directory _ text

/-- **A file that was written** is held. -/
theorem holds_of_writeFile (hname : Path.IsName name) {text : RawText}
    (h : (directory.writeFile name text).2 = .ok ()) :
    (directory.writeFile name text).1.Holds name := by
  rw [writeFile] at h ⊢
  split at h
  · cases h
  · rename_i tree _
    rcases FileTree.writeText_cases tree (directory.path name) text with
      ⟨failure, hfailed⟩ | ⟨octets, written, hwrite, hwritten⟩
    · rw [hfailed] at h
      cases h
    · obtain ⟨location, hresolve, hfile, hextends⟩ := FileTree.writeOctets_eq_ok hwrite
      obtain ⟨above, habove, hdirectory, rfl⟩ := FileTree.resolve_child hname hresolve
      simp only [hwritten]
      exact ⟨hname, above, hextends.supports.resolve habove, hextends.directory above hdirectory,
        hextends.supports.resolve hresolve, hfile⟩

/-- A file is written whole unless the system says no, or the text is not whole. -/
theorem writeFile_eq_encoding {text : RawText} {fault : RawText.Unencodable}
    (h : (directory.writeFile name text).2 = .error (.encoding fault)) :
    text.isWhole = false ∧ fault = text.unencodable := by
  rw [writeFile] at h
  split at h
  · cases h
  · exact FileTree.writeText_eq_encoding h

/-! ### Listing -/

/-- The names of a directory that can be told. -/
theorem mem_names_iff {names : List String} (h : directory.names = .ok names) {location : Location}
    (hresources : directory.tree.resolve directory.resources = .ok location)
    (hdirectory : directory.tree.HasDirectory location) :
    name ∈ names ↔ name ∈ directory.tree.namesIn location ∧
      directory.tree.isFile (directory.path name) = .ok true ∧ Listing.isLogName name = false := by
  rw [Directory.names, bind_of_eq_ok (FileTree.isDirectory_of_resolve hresources hdirectory),
    if_pos rfl, bind_of_eq_ok hresources] at h
  rw [mem_of_filterM_eq_ok h, Listing.ascending, List.mem_mergeSort]
  refine and_congr_right fun _ => ?_
  rw [bind_eq_ok_iff]
  constructor
  · rintro ⟨isFile, hfile, hboth⟩
    have hboth : (isFile && !Listing.isLogName name) = true := Except.ok.inj hboth
    rw [Bool.and_eq_true, Bool.not_eq_true'] at hboth
    exact ⟨by rw [hfile, hboth.1], hboth.2⟩
  · rintro ⟨hfile, hlog⟩
    exact ⟨true, hfile, by rw [hlog]; rfl⟩

/-- **What a directory holds** is among its names unless it is a log. -/
theorem Holds.mem_names (h : directory.Holds name) (hlog : Listing.isLogName name = false)
    {names : List String} (hnames : directory.names = .ok names) : name ∈ names := by
  have hisFile := h.isFile
  obtain ⟨hname, location, hresources, hdirectory, -, hfile⟩ := h
  exact (mem_names_iff hnames hresources hdirectory).mpr
    ⟨FileTree.mem_namesIn_iff.mpr ⟨hname, _, hfile.choose_spec⟩, hisFile, hlog⟩

/-- Every name that is told is that of a file. -/
theorem isFile_of_mem_names {names : List String} (h : directory.names = .ok names)
    (hname : name ∈ names) : directory.tree.isFile (directory.path name) = .ok true := by
  obtain ⟨isDirectory, hisDirectory, hrest⟩ := bind_eq_ok_iff.mp h
  cases isDirectory with
  | false =>
    obtain rfl := Except.ok.inj hrest
    exact absurd hname List.not_mem_nil
  | true =>
    obtain ⟨location, -, hfilter⟩ := bind_eq_ok_iff.mp hrest
    obtain ⟨-, htest⟩ := (mem_of_filterM_eq_ok hfilter).mp hname
    obtain ⟨isFile, hfile, hboth⟩ := bind_eq_ok_iff.mp htest
    have hboth : (isFile && !Listing.isLogName name) = true := Except.ok.inj hboth
    rw [Bool.and_eq_true] at hboth
    rw [hfile, hboth.1]

/-- Names are told in ascending order. -/
theorem pairwise_names {names : List String} (h : directory.names = .ok names) :
    names.Pairwise (· ≤ ·) := by
  obtain ⟨isDirectory, -, hrest⟩ := bind_eq_ok_iff.mp h
  cases isDirectory with
  | false =>
    obtain rfl := Except.ok.inj hrest
    exact List.Pairwise.nil
  | true =>
    obtain ⟨location, -, hfilter⟩ := bind_eq_ok_iff.mp hrest
    exact (Listing.pairwise_ascending _).sublist (sublist_of_filterM_eq_ok hfilter)

/-- Every name is told once. -/
theorem nodup_names {names : List String} (h : directory.names = .ok names) : names.Nodup := by
  obtain ⟨isDirectory, -, hrest⟩ := bind_eq_ok_iff.mp h
  cases isDirectory with
  | false =>
    obtain rfl := Except.ok.inj hrest
    exact List.nodup_nil
  | true =>
    obtain ⟨location, -, hfilter⟩ := bind_eq_ok_iff.mp hrest
    refine (sublist_of_filterM_eq_ok hfilter).nodup ?_
    rw [Listing.ascending, (List.mergeSort_perm _ _).nodup_iff]
    exact directory.tree.nodup_namesIn location

/-- Every name that is told is one that a file can have. -/
theorem isName_of_mem_names {names : List String} (h : directory.names = .ok names)
    (hname : name ∈ names) : Path.IsName name := by
  obtain ⟨isDirectory, -, hrest⟩ := bind_eq_ok_iff.mp h
  cases isDirectory with
  | false =>
    obtain rfl := Except.ok.inj hrest
    exact absurd hname List.not_mem_nil
  | true =>
    obtain ⟨location, -, hfilter⟩ := bind_eq_ok_iff.mp hrest
    have hlisted := ((mem_of_filterM_eq_ok hfilter).mp hname).1
    rw [Listing.ascending, List.mem_mergeSort] at hlisted
    exact (FileTree.mem_namesIn_iff.mp hlisted).1

theorem told_names {names : List String} (h : directory.names = .ok names) :
    Storage.names directory = ⟨names.map discovered, .ok names⟩ := by
  delta Storage.names instStorageDirectory
  dsimp only
  rw [h]

theorem told_names_of_failure {failure : OsFailure} (h : directory.names = .error failure) :
    Storage.names directory = .silent (.error (.os failure)) := by
  delta Storage.names instStorageDirectory
  dsimp only
  rw [h]

/-- The names that a directory tells are those that it has. -/
theorem outcome_names_eq_ok_iff {names : List String} :
    (Storage.names directory).outcome = .ok names ↔ directory.names = .ok names := by
  cases hnames : directory.names with
  | ok found => simp [told_names hnames]
  | error failure => simp [told_names_of_failure hnames, Answer.silent]

/-- Where there is no file there is no listing. -/
theorem listing_of_isFile_false (h : directory.tree.isFile (directory.path name) = .ok false) :
    directory.listing name = .silent (.ok none) := by
  delta Directory.listing
  rw [h]

/-- A file gives a listing or, where it cannot be read, none; it tells no diagnostic. -/
theorem exists_listing_of_isFile_true
    (h : directory.tree.isFile (directory.path name) = .ok true) :
    ∃ text told, directory.listing name = ⟨told, .ok text⟩ ∧
      (told = [] ∨ ∃ note, told = [.note .messages note]) := by
  delta Directory.listing
  rw [h]
  cases directory.tree.readText (directory.path name) with
  | ok text => exact ⟨some text, [], rfl, Or.inl rfl⟩
  | error failure => exact ⟨none, _, rfl, Or.inr ⟨_, rfl⟩⟩

/-- A directory is **listable** when the path of everything in it can be asked for. -/
def Listable (directory : Directory) : Prop :=
  ∀ location, directory.tree.resolve directory.resources = .ok location →
    ∀ name ∈ directory.tree.namesIn location,
      name.utf8ByteSize ≤ FileTree.maxNameSize ∧
      (directory.path name).toString.utf8ByteSize ≤ FileTree.maxPathSize

/-- A directory tells its names just when it can be found out of everything in it whether it is a
file. -/
theorem exists_names_iff {location : Location}
    (hresources : directory.tree.resolve directory.resources = .ok location)
    (hdirectory : directory.tree.HasDirectory location) :
    (∃ names, directory.names = .ok names) ↔
      ∀ name ∈ directory.tree.namesIn location,
        ∃ isFile, directory.tree.isFile (directory.path name) = .ok isFile := by
  rw [Directory.names, bind_of_eq_ok (FileTree.isDirectory_of_resolve hresources hdirectory),
    if_pos rfl, bind_of_eq_ok hresources, exists_filterM_eq_ok_iff]
  refine forall_congr' fun name => ?_
  rw [Listing.ascending, List.mem_mergeSort]
  refine imp_congr_right fun _ => ?_
  constructor
  · rintro ⟨chosen, hchosen⟩
    obtain ⟨isFile, hisFile, -⟩ := bind_eq_ok_iff.mp hchosen
    exact ⟨isFile, hisFile⟩
  · rintro ⟨isFile, hisFile⟩
    exact ⟨_, bind_eq_ok_iff.mpr ⟨isFile, hisFile, rfl⟩⟩

/-- A listable directory tells its names. -/
theorem Holds.exists_names (h : directory.Holds name) (hlistable : directory.Listable) :
    ∃ names, directory.names = .ok names := by
  obtain ⟨-, location, hresources, hdirectory, -, -⟩ := h
  refine (exists_names_iff hresources hdirectory).mpr fun other hother => ?_
  obtain ⟨hsize, hpathSize⟩ := hlistable location hresources other hother
  exact FileTree.exists_isFile_of_resolve (FileTree.resolve_child_of_size
    (FileTree.mem_namesIn_iff.mp hother).1 hresources hdirectory hsize hpathSize)

/-! ### Deleting -/

/-- What is not there does not come back. -/
theorem node?_removeFiles_eq_none {location : Location} {names : List String}
    (h : directory.tree.node? location = none) :
    (directory.removeFiles names).1.tree.node? location = none := by
  induction names generalizing directory with
  | nil => exact h
  | cons name names ih =>
    rw [removeFiles]
    split
    · exact h
    · rename_i removed hremove
      obtain ⟨removed, -, -, rfl⟩ := FileTree.removeFile_eq_ok_iff.mp hremove
      exact ih (FileTree.node?_remove_eq_none h)

/-- Nothing but the tree changes. -/
theorem removeFiles_fst (names : List String) :
    (directory.removeFiles names).1 =
      { directory with tree := (directory.removeFiles names).1.tree } := by
  induction names generalizing directory with
  | nil => rfl
  | cons name names ih =>
    rw [removeFiles]
    split
    · rfl
    · exact ih

theorem resources_removeFiles (names : List String) :
    (directory.removeFiles names).1.resources = directory.resources := by
  rw [removeFiles_fst]
  rfl

theorem path_removeFiles (names : List String) (name : String) :
    (directory.removeFiles names).1.path name = directory.path name := by
  rw [path, resources_removeFiles, path]

/-- **Removing some files** of a tree thins it, wherever it stops. -/
theorem thins_removeFiles {tree : FileTree} (hthins : tree.Thins directory.tree)
    (names : List String) : tree.Thins (directory.removeFiles names).1.tree := by
  induction names generalizing directory with
  | nil => exact hthins
  | cons name names ih =>
    rw [removeFiles]
    split
    · exact hthins
    · rename_i removed hremove
      obtain ⟨location, -, hfile, rfl⟩ := FileTree.removeFile_eq_ok_iff.mp hremove
      exact ih (hthins.remove (hthins.hasFile hfile))

/-- Nothing is left where the files were, if all of them could be taken away. Their paths may be
followed in a tree that was not thinned yet. -/
theorem node?_of_removeFiles_eq_ok {tree : FileTree} (hthins : tree.Thins directory.tree)
    {names : List String} (h : (directory.removeFiles names).2 = .ok ()) :
    ∀ name ∈ names, ∀ location, tree.resolve (directory.path name) = .ok location →
      (directory.removeFiles names).1.tree.node? location = none := by
  induction names generalizing directory with
  | nil => exact fun name hname => absurd hname List.not_mem_nil
  | cons name names ih =>
    rw [removeFiles] at h ⊢
    split at h
    · cases h
    · rename_i removed hremove
      obtain ⟨location, hresolve, hfile, rfl⟩ := FileTree.removeFile_eq_ok_iff.mp hremove
      have hrest := ih (hthins.remove (hthins.hasFile hfile)) h
      refine List.forall_mem_cons.mpr ⟨fun other hother => ?_, hrest⟩
      -- it is gone at once, and the removals that follow put nothing there
      obtain rfl := Except.ok.inj (hresolve.symm.trans (hthins.toSupports.resolve hother))
      refine node?_removeFiles_eq_none (FileTree.node?_remove_self ?_)
      exact FileTree.not_above_of_not_hasDirectory hfile.not_hasDirectory

/-- **Different files of one location** can all be taken away. -/
theorem removeFiles_eq_ok {tree : FileTree} (hthins : tree.Thins directory.tree)
    {location : Location} {names : List String} (hdistinct : names.Nodup)
    (h : ∀ name ∈ names, tree.resolve (directory.path name) = .ok (location ++ [name]) ∧
      directory.tree.HasFile (location ++ [name])) :
    (directory.removeFiles names).2 = .ok () := by
  induction names generalizing directory with
  | nil => rfl
  | cons name names ih =>
    obtain ⟨⟨hresolve, hfile⟩, hnames⟩ := List.forall_mem_cons.mp h
    obtain ⟨hname, hdistinct⟩ := List.nodup_cons.mp hdistinct
    have hremove := FileTree.removeFile_eq_ok_iff.mpr
      ⟨location ++ [name], hthins.toSupports.resolve hresolve, hfile, rfl⟩
    rw [removeFiles, hremove]
    refine ih (hthins.remove (hthins.hasFile hfile)) hdistinct fun other hother => ?_
    obtain ⟨hpath, hthere⟩ := hnames other hother
    refine ⟨hpath, ?_⟩
    -- the file beside it is still there
    have hbeside : ¬ location ++ [name] <+: location ++ [other] := by
      rw [List.prefix_append_right_inj, List.cons_prefix_cons]
      rintro ⟨rfl, -⟩
      exact hname hother
    obtain ⟨octets, hnode⟩ := hthere
    have hnot := FileTree.not_above_of_not_hasDirectory
      (FileTree.HasFile.not_hasDirectory ⟨octets, hnode⟩)
    exact ⟨octets, by rw [FileTree.node?_remove hnot, if_neg hbeside, hnode]⟩

/-- **The files that a directory tells** can all be taken away. -/
theorem removeFiles_of_names {names : List String} (h : directory.names = .ok names) :
    (directory.removeFiles names).2 = .ok () := by
  cases names with
  | nil => rfl
  | cons first names =>
    have hfiles : ∀ name ∈ first :: names, ∃ above,
        directory.tree.resolve directory.resources = .ok above ∧
        directory.tree.resolve (directory.path name) = .ok (above ++ [name]) ∧
        directory.tree.HasFile (above ++ [name]) := by
      intro name hname
      obtain ⟨location, hresolve, hfile⟩ :=
        FileTree.isFile_eq_ok_true_iff.mp (isFile_of_mem_names h hname)
      obtain ⟨above, habove, -, rfl⟩ :=
        FileTree.resolve_child (isName_of_mem_names h hname) hresolve
      exact ⟨above, habove, hresolve, hfile⟩
    obtain ⟨location, hlocation, -, -⟩ := hfiles first List.mem_cons_self
    refine @removeFiles_eq_ok _ _ (.refl directory.tree) location _ (nodup_names h)
      fun name hname => ?_
    obtain ⟨above, habove, hresolve, hfile⟩ := hfiles name hname
    obtain rfl := Except.ok.inj (hlocation.symm.trans habove)
    exact ⟨hresolve, hfile⟩

theorem delete_of_names {names : List String} (h : directory.names = .ok names) :
    directory.delete = ((directory.removeFiles names).1,
      ⟨names.map discovered, (directory.removeFiles names).2⟩) := by
  delta delete
  rw [h]
  rfl

theorem delete_of_failure {failure : OsFailure} (h : directory.names = .error failure) :
    directory.delete = (directory, .silent (.error (.os failure))) := by
  delta delete
  rw [h]

/-- **A deletion that succeeds** leaves no file of a name that was held. -/
theorem Holds.isFile_delete (h : directory.Holds name) (hlog : Listing.isLogName name = false)
    (hdelete : directory.delete.2.outcome = .ok ()) :
    directory.delete.1.tree.isFile (directory.delete.1.path name) = .ok false := by
  cases hnames : directory.names with
  | error failure =>
    rw [delete_of_failure hnames] at hdelete
    cases hdelete
  | ok names =>
    rw [delete_of_names hnames] at hdelete ⊢
    have hmem := h.mem_names hlog hnames
    obtain ⟨-, location, -, -, hpath, -⟩ := h
    have hthins := thins_removeFiles (.refl directory.tree) names
    have hgone := node?_of_removeFiles_eq_ok (.refl directory.tree) hdelete name hmem
    rw [path_removeFiles]
    exact FileTree.isFile_of_node?_eq_none (hthins.toSupports.resolve hpath) (hgone _ hpath)

/-! ### Failing -/

/-- The paths that a directory **asks for** when it tells its names: its own, and those of
everything that is in it. -/
def AsksFor (directory : Directory) (path : Path) : Prop :=
  path = directory.resources ∨
    ∃ location, directory.tree.resolve directory.resources = .ok location ∧
    ∃ name ∈ directory.tree.namesIn location, path = directory.path name

/-- A directory fails to tell its names only over a path that is too long. -/
theorem names_eq_error {failure : OsFailure} (h : directory.names = .error failure) :
    ∃ path, directory.AsksFor path ∧ directory.tree.TooLong path ∧
      failure = ⟨.nameTooLong, path⟩ := by
  rcases bind_eq_error_iff.mp h with hresources | ⟨isDirectory, hdirectory, hrest⟩
  · obtain ⟨hfailure, hlong⟩ := FileTree.isDirectory_eq_error_iff.mp hresources
    exact ⟨directory.resources, Or.inl rfl, hlong, hfailure⟩
  cases isDirectory with
  | false => cases hrest
  | true =>
    obtain ⟨location, hlocation, -⟩ := FileTree.isDirectory_eq_ok_true_iff.mp hdirectory
    rw [if_pos rfl, bind_of_eq_ok hlocation] at hrest
    obtain ⟨name, hname, htest⟩ := exists_of_filterM_eq_error hrest
    rw [Listing.ascending, List.mem_mergeSort] at hname
    rcases bind_eq_error_iff.mp htest with hfile | ⟨isFile, -, hpure⟩
    · obtain ⟨hfailure, hlong⟩ := FileTree.isFile_eq_error_iff.mp hfile
      exact ⟨directory.path name, Or.inr ⟨location, hlocation, name, hname, rfl⟩, hlong, hfailure⟩
    · cases hpure

/-- **A listing** cannot be asked for just when its path is too long. Whatever else is wrong with
the file makes it count as none. -/
theorem outcome_listing_eq_error_iff {fault : Fault} :
    (Storage.listing directory name).outcome = .error fault ↔
      fault = .os ⟨.nameTooLong, directory.path name⟩ ∧
        directory.tree.TooLong (directory.path name) := by
  change (directory.listing name).outcome = .error fault ↔ _
  cases hfile : directory.tree.isFile (directory.path name) with
  | error failure =>
    have hlisting : directory.listing name = .silent (.error (.os failure)) := by
      delta Directory.listing
      rw [hfile]
    obtain ⟨rfl, hlong⟩ := FileTree.isFile_eq_error_iff.mp hfile
    rw [hlisting, Answer.silent, Except.error.injEq, and_iff_left hlong, eq_comm]
  | ok isFile =>
    have hshort : ¬ directory.tree.TooLong (directory.path name) := by
      intro hlong
      rw [FileTree.isFile_eq_error_iff.mpr ⟨rfl, hlong⟩] at hfile
      cases hfile
    refine iff_of_false (fun houtcome => ?_) fun h => hshort h.2
    cases isFile with
    | false =>
      rw [listing_of_isFile_false hfile] at houtcome
      cases houtcome
    | true =>
      obtain ⟨text, told, hlisting, -⟩ := exists_listing_of_isFile_true hfile
      rw [hlisting] at houtcome
      cases houtcome

/-- A listing cannot be asked for in a directory when its name is longer than one can be. -/
theorem outcome_listing_of_long_name {location : Location} (hname : Path.IsName name)
    (hresources : directory.tree.resolve directory.resources = .ok location)
    (hdirectory : directory.tree.HasDirectory location)
    (hsize : FileTree.maxNameSize < name.utf8ByteSize) :
    (Storage.listing directory name).outcome =
      .error (.os ⟨.nameTooLong, directory.path name⟩) :=
  outcome_listing_eq_error_iff.mpr
    ⟨rfl, FileTree.tooLong_child hname hresources hdirectory hsize⟩

/-- **Writing** fails as a storage may fail. -/
theorem outcome_write_eq_error {content : String} {fault : Fault}
    (h : (Storage.write directory name content).2.outcome = .error fault) :
    ∃ failure, fault = .storage failure := by
  change
    (directory.writeFile name (Listing.header directory.tool ++ content : String)).2.mapError _ =
    .error fault at h
  cases hwrite :
      (directory.writeFile name (Listing.header directory.tool ++ content : String)).2 with
  | ok value =>
    rw [hwrite] at h
    cases h
  | error failure =>
    rw [hwrite] at h
    cases failure with
    | os cause => exact ⟨_, (Except.error.inj h).symm⟩
    | encoding cause =>
      have hwhole := (writeFile_eq_encoding hwrite).1
      rw [RawText.isWhole_coe] at hwhole
      cases hwhole

/-- **Keeping a log** fails only for a text that is not whole. -/
theorem outcome_keepLog_eq_error {text : RawText} {fault : Fault}
    (h : (Storage.keepLog directory text).2.outcome = .error fault) :
    text.isWhole = false ∧ fault = .encoding text.unencodable := by
  change (directory.keepLog text).2.outcome = .error fault at h
  rw [keepLog] at h
  split at h
  · cases h
  · change logOutcome (directory.writeFile s!"log{directory.clock}.log" text).2 = .error fault at h
    cases hwrite : (directory.writeFile s!"log{directory.clock}.log" text).2 with
    | ok value =>
      rw [hwrite] at h
      cases h
    | error failure =>
      rw [hwrite] at h
      cases failure with
      | os cause => cases h
      | encoding cause =>
        obtain ⟨hwhole, rfl⟩ := writeFile_eq_encoding hwrite
        exact ⟨hwhole, (Except.error.inj h).symm⟩

/-- **Deleting** fails where the names are not told, and nowhere else. -/
theorem outcome_delete_eq_error {fault : Fault}
    (h : (Storage.delete directory).2.outcome = .error fault) :
    ∃ path, directory.AsksFor path ∧ directory.tree.TooLong path ∧
      fault = .os ⟨.nameTooLong, path⟩ := by
  change directory.delete.2.outcome = .error fault at h
  cases hnames : directory.names with
  | ok names =>
    rw [delete_of_names hnames, removeFiles_of_names hnames] at h
    cases h
  | error failure =>
    rw [delete_of_failure hnames] at h
    obtain ⟨path, hasks, hlong, rfl⟩ := names_eq_error hnames
    exact ⟨path, hasks, hlong, (Except.error.inj h).symm⟩

end Directory

end ProviderRegistry
