import Mathlib.Data.List.Lex
import Mathlib.Data.List.Nodup
import Mathlib.Data.String.Basic
import ProviderRegistry.Proofs.Computation
import ProviderRegistry.Proofs.FileTree.WellFormed
import ProviderRegistry.Source.Files

/-!
# What the scan of a source tree finds

The source files below a root are the files whose name ends as that of a source file does, with no
directory between the root and the file that is left out (`IsSourceFile`). The scan finds these and
nothing else, each once and in ascending order of the components, whatever the order in which
directories are listed (`sourceFiles_exact`).

There is one way in which the scan can fail. It looks into every directory and asks of everything
with the name of a source file whether it is a file, so it meets each path that it **asks for**
(`AsksFor`), and stops at one that is too long: the scan then fails as a whole, and no file of the
tree is left out of a scan that succeeds. A root that winds up and down is enough for a failure
(`sourceFiles_of_winding_root`).

All this is about trees of files and directories that can be read and searched, as file trees are
here. Of a directory that may not be read a scan learns nothing, and does not say so.
-/

namespace ProviderRegistry.Source

open FileTree

/-! ### What is to be found -/

variable {tree tree' : FileTree} {root path file : Path} {location : Location} {name : String}
  {names : List String} {files : List Path}

/-- Names **end in a source name** when there is a last one and it is one of a source file. -/
def EndsInSourceName (names : List String) : Prop :=
  ∃ last ∈ names.getLast?, sourceSuffix.toList <:+ last.toList

/-- A path leads to a **source file** below a root: the root leads to a directory, some names lead
from there to a file whose name ends as that of a source file does, and none of the names before
that is one of a directory that is left out. -/
def IsSourceFile (tree : FileTree) (root file : Path) : Prop :=
  ∃ location names, tree.resolve root = .ok location ∧ tree.HasDirectory location ∧
    file = root.below names ∧ tree.HasFile (location ++ names) ∧ EndsInSourceName names ∧
    ∀ name ∈ names.dropLast, name ∉ skippedDirectories ∧ name.toList.head? ≠ some '.'

/-- Names lead from a location to something that a scan **looks at**: a directory, or anything with
the name of a source file. -/
def LooksAt (tree : FileTree) (location : Location) (names : List String) : Prop :=
  tree.HasDirectory (location ++ names) ∨
    EndsInSourceName names ∧ ∃ node, tree.node? (location ++ names) = some node

/-- A path is one that a scan **asks for**: the root, or the path to something that it looks at
below the root. -/
def AsksFor (tree : FileTree) (root path : Path) : Prop :=
  path = root ∨ ∃ location names, tree.resolve root = .ok location ∧ tree.HasDirectory location ∧
    path = root.below names ∧ LooksAt tree location names

theorem endsInSourceName_cons_cons {next : String} :
    EndsInSourceName (name :: next :: names) ↔ EndsInSourceName (next :: names) := by
  rw [EndsInSourceName, EndsInSourceName, List.getLast?_cons_cons]

theorem endsInSourceName_singleton : EndsInSourceName [name] ↔ isSourceName name = true := by
  rw [EndsInSourceName, isSourceName, List.isSuffixOf_iff_suffix]
  simp

theorem not_endsInSourceName_nil : ¬ EndsInSourceName [] := by
  rintro ⟨last, hlast, -⟩
  cases hlast

/-- A scan looks at everything in a directory that it looks at from there. -/
theorem LooksAt.of_cons (hname : tree.HasDirectory (location ++ [name]))
    (h : LooksAt tree location (name :: names)) : LooksAt tree (location ++ [name]) names := by
  rw [LooksAt, List.append_cons] at h
  rcases h with hdirectory | ⟨hends, hnode⟩
  · exact Or.inl hdirectory
  · cases names with
    | nil => exact Or.inl (by rwa [List.append_nil])
    | cons next names => exact Or.inr ⟨endsInSourceName_cons_cons.mp hends, hnode⟩

theorem LooksAt.cons (h : LooksAt tree (location ++ [name]) names) :
    LooksAt tree location (name :: names) := by
  rw [LooksAt, List.append_cons]
  rcases h with hdirectory | ⟨hends, hnode⟩
  · exact Or.inl hdirectory
  · cases names with
    | nil => exact absurd hends not_endsInSourceName_nil
    | cons next names => exact Or.inr ⟨endsInSourceName_cons_cons.mpr hends, hnode⟩

/-- Of what is no directory a scan looks at source names alone, and at nothing below it. -/
theorem LooksAt.singleton (hwell : tree.WellFormed)
    (hname : ¬ tree.HasDirectory (location ++ [name]))
    (h : LooksAt tree location (name :: names)) :
    names = [] ∧ isSourceName name = true ∧
      ∃ node, tree.node? (location ++ [name]) = some node := by
  obtain ⟨node, hnode⟩ : ∃ node, tree.node? (location ++ name :: names) = some node := by
    rcases h with hdirectory | ⟨-, hnode⟩
    · exact ⟨_, hdirectory⟩
    · exact hnode
  cases names with
  | cons next names =>
    exact absurd (hwell.held hnode _ ⟨next :: names, by simp⟩ (by simp)) hname
  | nil =>
    rcases h with hdirectory | ⟨hends, -⟩
    · exact absurd hdirectory hname
    · exact ⟨rfl, endsInSourceName_singleton.mp hends, node, hnode⟩

/-! ### One directory -/

/-- Some files are what a scan **collects** below a path: each file with the name of a source file
is there once, and nothing that the scan looks at has a path that is too long. -/
structure Collects (tree : FileTree) (path : Path) (location : Location) (files : List Path) :
    Prop where
  nodup : files.Nodup
  mem_iff (file : Path) : file ∈ files ↔
    ∃ names, file = path.below names ∧ tree.HasFile (location ++ names) ∧ EndsInSourceName names
  short {names : List String} (h : LooksAt tree location names) : ¬ tree.TooLong (path.below names)

/-- Whatever is in a directory with the name of a source file is asked whether it is a file. -/
theorem exists_isFile_entry (hwell : tree.WellFormed)
    (h : (((tree.namesIn location).filter isSourceName).map path.entry).filterM tree.isFile =
      .ok files)
    (hnode : ∃ node, tree.node? (location ++ [name]) = some node)
    (hsource : isSourceName name = true) :
    path.entry name ∈ ((tree.namesIn location).filter isSourceName).map path.entry ∧
      ∃ isFile, tree.isFile (path.entry name) = .ok isFile := by
  have hentry : path.entry name ∈ ((tree.namesIn location).filter isSourceName).map path.entry :=
    List.mem_map_of_mem (List.mem_filter.mpr ⟨hwell.mem_namesIn_iff.mpr hnode, hsource⟩)
  exact ⟨hentry, exists_filterM_eq_ok_iff.mp ⟨files, h⟩ _ hentry⟩

/-- The files in a directory itself. -/
theorem mem_filterM_entries_iff (hwell : tree.WellFormed)
    (hpath : tree.resolve path = .ok location)
    (h : (((tree.namesIn location).filter isSourceName).map path.entry).filterM tree.isFile =
      .ok files) :
    file ∈ files ↔
      ∃ name, file = path.entry name ∧ tree.HasFile (location ++ [name]) ∧ isSourceName name := by
  rw [mem_of_filterM_eq_ok h, List.mem_map]
  constructor
  · rintro ⟨⟨name, hname, rfl⟩, hfile⟩
    obtain ⟨hlisted, hsource⟩ := List.mem_filter.mp hname
    obtain ⟨node, hnode⟩ := hwell.mem_namesIn_iff.mp hlisted
    obtain ⟨found, hfound, hfile⟩ := isFile_eq_ok_true_iff.mp hfile
    have hresolve := hwell.resolve_of_not_tooLong hpath hnode (not_tooLong_of_resolve hfound)
    obtain rfl := Except.ok.inj (hfound.symm.trans hresolve)
    exact ⟨name, rfl, hfile, hsource⟩
  · rintro ⟨name, rfl, hfile, hsource⟩
    obtain ⟨octets, hnode⟩ := hfile
    obtain ⟨hentry, isFile, hisFile⟩ := exists_isFile_entry hwell h ⟨_, hnode⟩ hsource
    have hresolve := hwell.resolve_of_not_tooLong hpath hnode (not_tooLong_of_isFile hisFile)
    exact ⟨List.mem_map.mp hentry, isFile_eq_ok_true_iff.mpr ⟨_, hresolve, octets, hnode⟩⟩

/-- What is collected below an entry of a directory lies below the directory. -/
theorem Collects.mem_below_entry_iff
    (h : Collects tree (path.entry name) (location ++ [name]) files) :
    file ∈ files ↔ ∃ next names, file = path.below (name :: next :: names) ∧
      tree.HasFile (location ++ name :: next :: names) ∧
        EndsInSourceName (name :: next :: names) := by
  rw [h.mem_iff]
  constructor
  · rintro ⟨names, rfl, hfile, hends⟩
    cases names with
    | nil => exact absurd hends not_endsInSourceName_nil
    | cons next names =>
      exact ⟨next, names, path.below_entry name _, by rwa [List.append_cons],
        endsInSourceName_cons_cons.mpr hends⟩
  · rintro ⟨next, names, rfl, hfile, hends⟩
    exact ⟨next :: names, (path.below_entry name _).symm, by rwa [← List.append_cons],
      endsInSourceName_cons_cons.mp hends⟩

/-- The names of the directories in a directory. -/
theorem mem_directories_iff (hwell : tree.WellFormed) :
    (name ∈ (tree.namesIn location).filter fun name => tree.isDirectoryAt (location ++ [name])) ↔
      tree.HasDirectory (location ++ [name]) := by
  rw [List.mem_filter, hwell.mem_namesIn_iff, isDirectoryAt_iff]
  exact and_iff_right_of_imp fun h => ⟨_, h⟩

section Entries

variable {below : String → List Path}

/-- No file is in two directories, nor in a directory and in one that is in it. -/
theorem Collects.nodup_entries (hwell : tree.WellFormed) (hpath : tree.resolve path = .ok location)
    (hfiles : (((tree.namesIn location).filter isSourceName).map path.entry).filterM tree.isFile =
      .ok files)
    (hbelow : ∀ name, tree.HasDirectory (location ++ [name]) →
      Collects tree (path.entry name) (location ++ [name]) (below name)) :
    (files ++ ((tree.namesIn location).filter fun name =>
      tree.isDirectoryAt (location ++ [name])).flatMap below).Nodup := by
  have hnames := tree.nodup_namesIn location
  refine List.Nodup.append ?_ (List.nodup_flatMap.mpr ⟨fun name hname => ?_, ?_⟩) ?_
  · refine (sublist_of_filterM_eq_ok hfiles).nodup (List.Nodup.map ?_ (hnames.filter _))
    exact fun name name' h => List.singleton_injective (path.below_injective h)
  · exact (hbelow name ((mem_directories_iff hwell).mp hname)).nodup
  · refine (hnames.filter _).imp_of_mem fun hname hname' hne file hfile hfile' => hne ?_
    obtain ⟨next, names, rfl, -⟩ :=
      (hbelow _ ((mem_directories_iff hwell).mp hname)).mem_below_entry_iff.mp hfile
    obtain ⟨next', names', heq, -⟩ :=
      (hbelow _ ((mem_directories_iff hwell).mp hname')).mem_below_entry_iff.mp hfile'
    exact (List.cons.inj (path.below_injective heq)).1
  · intro file hfile hbelowFile
    obtain ⟨name, rfl, -⟩ := (mem_filterM_entries_iff hwell hpath hfiles).mp hfile
    obtain ⟨name', hname', hbelowFile⟩ := List.mem_flatMap.mp hbelowFile
    obtain ⟨next, names, heq, -⟩ :=
      (hbelow _ ((mem_directories_iff hwell).mp hname')).mem_below_entry_iff.mp hbelowFile
    have hbelowEq : path.below [name] = path.below (name' :: next :: names) := heq
    cases path.below_injective hbelowEq

/-- A file below a directory is in it, or below a directory in it. -/
theorem Collects.mem_entries_iff (hwell : tree.WellFormed)
    (hpath : tree.resolve path = .ok location)
    (hfiles : (((tree.namesIn location).filter isSourceName).map path.entry).filterM tree.isFile =
      .ok files)
    (hbelow : ∀ name, tree.HasDirectory (location ++ [name]) →
      Collects tree (path.entry name) (location ++ [name]) (below name)) :
    file ∈ files ++ ((tree.namesIn location).filter fun name =>
        tree.isDirectoryAt (location ++ [name])).flatMap below ↔
      ∃ names, file = path.below names ∧ tree.HasFile (location ++ names) ∧
        EndsInSourceName names := by
  rw [List.mem_append, mem_filterM_entries_iff hwell hpath hfiles, List.mem_flatMap]
  constructor
  · rintro (⟨name, rfl, hfile, hsource⟩ | ⟨name, hname, hfile⟩)
    · exact ⟨[name], rfl, hfile, endsInSourceName_singleton.mpr hsource⟩
    · obtain ⟨next, names, hfile⟩ :=
        (hbelow name ((mem_directories_iff hwell).mp hname)).mem_below_entry_iff.mp hfile
      exact ⟨name :: next :: names, hfile⟩
  · rintro ⟨names, rfl, hfile, hends⟩
    match names, hends with
    | [], hends => exact absurd hends not_endsInSourceName_nil
    | [name], hends => exact Or.inl ⟨name, rfl, hfile, endsInSourceName_singleton.mp hends⟩
    | name :: next :: names, hends =>
      obtain ⟨octets, hnode⟩ := hfile
      have hname : tree.HasDirectory (location ++ [name]) :=
        hwell.held hnode _ ⟨next :: names, by simp⟩ (by simp)
      exact Or.inr ⟨name, (mem_directories_iff hwell).mpr hname,
        (hbelow name hname).mem_below_entry_iff.mpr
        ⟨next, names, rfl, ⟨octets, hnode⟩, hends⟩⟩

/-- **A directory adds** the files in it to what is collected below the directories in it. -/
theorem Collects.of_entries (hwell : tree.WellFormed) (hpath : tree.resolve path = .ok location)
    (hfiles : (((tree.namesIn location).filter isSourceName).map path.entry).filterM tree.isFile =
      .ok files)
    (hbelow : ∀ name, tree.HasDirectory (location ++ [name]) →
      Collects tree (path.entry name) (location ++ [name]) (below name)) :
    Collects tree path location (files ++
      ((tree.namesIn location).filter fun name =>
        tree.isDirectoryAt (location ++ [name])).flatMap below) := by
  refine ⟨Collects.nodup_entries hwell hpath hfiles hbelow, fun file =>
    Collects.mem_entries_iff hwell hpath hfiles hbelow, fun {names} hlooks => ?_⟩
  cases names with
  | nil => exact path.below_nil.symm ▸ not_tooLong_of_resolve hpath
  | cons name names =>
    by_cases hname : tree.HasDirectory (location ++ [name])
    · rw [← Path.below_entry]
      exact (hbelow name hname).short (hlooks.of_cons hname)
    · obtain ⟨rfl, hsource, hnode⟩ := hlooks.singleton hwell hname
      obtain ⟨-, isFile, hisFile⟩ := exists_isFile_entry hwell hfiles hnode hsource
      exact not_tooLong_of_isFile hisFile

end Entries

/-! ### The whole tree -/

theorem filesBelow_of_resolve (h : tree.resolve path = .ok location) :
    filesBelow tree path =
      (((tree.namesIn location).filter isSourceName).map path.entry).filterM tree.isFile >>=
        fun files => (((tree.namesIn location).filter fun name =>
          tree.isDirectoryAt (location ++ [name])).mapM fun name =>
            filesBelow tree (path.entry name)) >>= fun below => .ok (files ++ below.flatten) := by
  rw [filesBelow]
  split
  · rename_i hfailure
    cases h.symm.trans hfailure
  · rename_i found hfound
    obtain rfl := Except.ok.inj (h.symm.trans hfound)
    rfl

/-- **The files below a directory** are all collected, unless the scan looks at something whose
path is too long. -/
theorem filesBelow_collects (hwell : tree.WellFormed) (path : Path) {location : Location}
    (hpath : ¬ tree.TooLong path → tree.resolve path = .ok location)
    (hdirectory : tree.HasDirectory location) :
    match filesBelow tree path with
    | .ok files => Collects tree path location files
    | .error failure => ∃ names, LooksAt tree location names ∧ tree.TooLong (path.below names) ∧
        failure = ⟨.nameTooLong, path.below names⟩ := by
  -- along the recursion of the scan, which meets a path before it is known to be short enough
  induction path using filesBelow.induct tree generalizing location with
  | case1 path failure hfailure =>
    have hlong : tree.TooLong path := by
      by_contra hshort
      cases hfailure.symm.trans (hpath hshort)
    rw [filesBelow, show tree.resolve path = _ from hlong]
    refine ⟨[], Or.inl (by rwa [List.append_nil]), ?_, ?_⟩
    · rwa [path.below_nil]
    · rw [path.below_nil]
  | case2 path found hfound ih =>
    obtain rfl := Except.ok.inj (hfound.symm.trans (hpath (not_tooLong_of_resolve hfound)))
    have hbelow : ∀ name, tree.HasDirectory (found ++ [name]) → _ := fun name hname =>
      ih name (hwell.resolve_of_not_tooLong hfound hname) hname
    rw [filesBelow_of_resolve hfound]
    cases hfiles : (((tree.namesIn found).filter isSourceName).map path.entry).filterM
        tree.isFile with
    | error failure =>
      obtain ⟨entry, hentry, hfails⟩ := exists_of_filterM_eq_error hfiles
      obtain ⟨name, hname, rfl⟩ := List.mem_map.mp hentry
      obtain ⟨hlisted, hsource⟩ := List.mem_filter.mp hname
      obtain ⟨hfailure, hlong⟩ := isFile_eq_error_iff.mp hfails
      exact ⟨[name],
        Or.inr ⟨endsInSourceName_singleton.mpr hsource, hwell.mem_namesIn_iff.mp hlisted⟩,
        hlong, hfailure⟩
    | ok files =>
      cases hmap : ((tree.namesIn found).filter fun name =>
          tree.isDirectoryAt (found ++ [name])).mapM
            fun name => filesBelow tree (path.entry name) with
      | error failure =>
        obtain ⟨name, hname, hfails⟩ := exists_of_mapM_eq_error hmap
        have hname := isDirectoryAt_iff.mp (List.mem_filter.mp hname).2
        have houtcome := hbelow name hname
        rw [hfails] at houtcome
        obtain ⟨names, hlooks, hlong, hfailure⟩ := houtcome
        rw [Path.below_entry] at hlong hfailure
        exact ⟨name :: names, hlooks.cons, hlong, hfailure⟩
      | ok below =>
        obtain ⟨g, hg, rfl⟩ := exists_of_mapM_eq_ok hmap
        refine Collects.of_entries hwell hfound hfiles fun name hname => ?_
        have houtcome := hbelow name hname
        rw [hg name (List.mem_filter.mpr
          ⟨hwell.mem_namesIn_iff.mpr ⟨_, hname⟩, isDirectoryAt_iff.mpr hname⟩)] at houtcome
        exact houtcome

/-! ### The scan of a root -/

/-- Some files are **the scan** of a root: its source files, each once and in ascending order of
their components, found without asking for a path that is too long. -/
structure IsScan (tree : FileTree) (root : Path) (files : List Path) : Prop where
  ascending : files.Pairwise fun file other => file.parts < other.parts
  mem_iff (file : Path) : file ∈ files ↔ IsSourceFile tree root file
  short {path : Path} (h : AsksFor tree root path) : ¬ tree.TooLong path

/-- A root has one scan. -/
theorem IsScan.unique {files' : List Path} (h : IsScan tree root files)
    (h' : IsScan tree root files') :
    files = files' := by
  have hnodup {files : List Path}
      (h : files.Pairwise fun file other => file.parts < other.parts) : files.Nodup :=
    List.nodup_iff_pairwise_ne.mpr (h.imp fun hlt => ne_of_apply_ne Path.parts hlt.ne)
  have hmem : ∀ file, file ∈ files ↔ file ∈ files' := fun file =>
    (h.mem_iff file).trans (h'.mem_iff file).symm
  exact List.Perm.eq_of_pairwise (fun _ _ _ _ hlt hgt => absurd (lt_trans hlt hgt) (lt_irrefl _))
    h.ascending h'.ascending
    ((List.perm_ext_iff_of_nodup (hnodup h.ascending) (hnodup h'.ascending)).mpr hmem)

theorem partsAscend_iff {parts parts' : List String} :
    Path.partsAscend parts parts' = true ↔ parts ≤ parts' := by
  rw [← not_lt]
  induction parts generalizing parts' with
  | nil => exact iff_of_true rfl (List.not_lt_nil parts')
  | cons part parts ih =>
    cases parts' with
    | nil => exact iff_of_false Bool.false_ne_true (not_not_intro (List.nil_lt_cons part parts))
    | cons part' parts' =>
      rw [Path.partsAscend, List.cons_lt_cons_iff]
      split
      · rename_i heq
        simp [heq, ih]
      · rename_i hne
        rw [decide_eq_true_iff, not_or, not_lt]
        exact ⟨fun hlt => ⟨hlt.le, fun h => hne h.1.symm⟩, fun h => lt_of_le_of_ne h.1 hne⟩

theorem isIncluded_iff : isIncluded ⟨false, names⟩ = true ↔
    ∀ name ∈ names.dropLast, name ∉ skippedDirectories ∧ name.toList.head? ≠ some '.' := by
  simp [isIncluded, isSkipped]

theorem relativeTo?_below : (root.below names).relativeTo? root = some ⟨false, names⟩ :=
  Path.relativeTo?_join rfl

/-- What is collected below a root is its scan once it is filtered and sorted. -/
theorem Collects.isScan (h : Collects tree root location files)
    (hroot : tree.resolve root = .ok location) (hdirectory : tree.HasDirectory location) :
    IsScan tree root ((files.filter fun file => (file.relativeTo? root).any isIncluded).mergeSort
      fun file other => Path.partsAscend file.parts other.parts) := by
  have hperm := List.mergeSort_perm
    (files.filter fun file => (file.relativeTo? root).any isIncluded)
    fun file other => Path.partsAscend file.parts other.parts
  have hmem : ∀ file,
      file ∈ (files.filter fun file => (file.relativeTo? root).any isIncluded).mergeSort
        (fun file other => Path.partsAscend file.parts other.parts) ↔
      IsSourceFile tree root file := by
    intro file
    rw [hperm.mem_iff, List.mem_filter, h.mem_iff]
    constructor
    · rintro ⟨⟨names, rfl, hfile, hends⟩, hincluded⟩
      rw [relativeTo?_below, Option.any_some, isIncluded_iff] at hincluded
      exact ⟨location, names, hroot, hdirectory, rfl, hfile, hends, hincluded⟩
    · rintro ⟨found, names, hfound, -, rfl, hfile, hends, hincluded⟩
      obtain rfl := Except.ok.inj (hroot.symm.trans hfound)
      rw [relativeTo?_below, Option.any_some, isIncluded_iff]
      exact ⟨⟨names, rfl, hfile, hends⟩, hincluded⟩
  refine ⟨?_, hmem, ?_⟩
  -- what is sorted ascends weakly, and strictly since no two of the files have the same components
  · have hsorted := @List.pairwise_mergeSort _ (fun file other : Path =>
        Path.partsAscend file.parts other.parts)
      (fun _ _ _ h h' =>
        partsAscend_iff.mpr (le_trans (partsAscend_iff.mp h) (partsAscend_iff.mp h')))
      (fun file other => by
        rw [Bool.or_eq_true, partsAscend_iff, partsAscend_iff]
        exact le_total file.parts other.parts)
      (files.filter fun file => (file.relativeTo? root).any isIncluded)
    have hnodup := hperm.nodup_iff.mpr (h.nodup.filter _)
    refine (hsorted.and hnodup).imp_of_mem fun hfile hother ⟨hle, hne⟩ => ?_
    refine lt_of_le_of_ne (partsAscend_iff.mp hle) fun heq => hne ?_
    obtain ⟨-, names, -, -, rfl, -⟩ := (hmem _).mp hfile
    obtain ⟨-, names', -, -, rfl, -⟩ := (hmem _).mp hother
    exact congrArg _ (List.append_cancel_left heq)
  · rintro path (rfl | ⟨found, names, hfound, -, rfl, hlooks⟩)
    · exact not_tooLong_of_resolve hroot
    · obtain rfl := Except.ok.inj (hroot.symm.trans hfound)
      exact h.short hlooks

/-- There is nothing below a root that leads to no directory. -/
theorem isScan_nil (hroot : tree.isDirectory root = .ok false) : IsScan tree root [] := by
  have hnot : ∀ location, tree.resolve root = .ok location → ¬ tree.HasDirectory location := by
    intro location hlocation hdirectory
    cases hroot.symm.trans (isDirectory_of_resolve hlocation hdirectory)
  refine ⟨List.Pairwise.nil, fun file => iff_of_false List.not_mem_nil ?_, ?_⟩
  · rintro ⟨location, -, hlocation, hdirectory, -⟩
    exact hnot location hlocation hdirectory
  · rintro path (rfl | ⟨location, -, hlocation, hdirectory, -⟩)
    · intro hlong
      cases hroot.symm.trans (isDirectory_eq_error_iff.mpr ⟨rfl, hlong⟩)
    · exact absurd hdirectory (hnot location hlocation)

theorem sourceFiles_of_resolve (hroot : tree.resolve root = .ok location)
    (hdirectory : tree.HasDirectory location) :
    sourceFiles tree root = (filesBelow tree root).map fun files =>
      (files.filter fun file => (file.relativeTo? root).any isIncluded).mergeSort
        fun file other => Path.partsAscend file.parts other.parts := by
  rw [sourceFiles, bind_of_eq_ok (isDirectory_of_resolve hroot hdirectory), if_pos rfl]
  cases filesBelow tree root <;> rfl

/-- The scan of a root is found, unless it asks for a path that is too long. -/
theorem sourceFiles_isScan (hwell : tree.WellFormed) (root : Path) :
    match sourceFiles tree root with
    | .ok files => IsScan tree root files
    | .error failure =>
      ∃ path, AsksFor tree root path ∧ tree.TooLong path ∧ failure = ⟨.nameTooLong, path⟩ := by
  cases hroot : tree.isDirectory root with
  | error failure =>
    obtain ⟨hfailure, hlong⟩ := isDirectory_eq_error_iff.mp hroot
    rw [sourceFiles, hroot]
    exact ⟨root, Or.inl rfl, hlong, hfailure⟩
  | ok isDirectory =>
    cases isDirectory with
    | false =>
      rw [sourceFiles, hroot]
      exact isScan_nil hroot
    | true =>
      obtain ⟨location, hlocation, hdirectory⟩ := isDirectory_eq_ok_true_iff.mp hroot
      have hbelow := filesBelow_collects hwell root (fun _ => hlocation) hdirectory
      rw [sourceFiles_of_resolve hlocation hdirectory]
      cases hfiles : filesBelow tree root with
      | ok files =>
        rw [hfiles] at hbelow
        exact hbelow.isScan hlocation hdirectory
      | error failure =>
        rw [hfiles] at hbelow
        obtain ⟨names, hlooks, hlong, hfailure⟩ := hbelow
        exact ⟨root.below names, Or.inr ⟨location, names, hlocation, hdirectory, rfl, hlooks⟩,
          hlong, hfailure⟩

/-! ### The order of listing -/

theorem isScan_iff_of_sameNodes (h : tree.SameNodes tree') :
    IsScan tree root files ↔ IsScan tree' root files := by
  have hsource : ∀ file, IsSourceFile tree root file ↔ IsSourceFile tree' root file :=
    fun file => by
    simp only [IsSourceFile, h.resolve, h.hasDirectory_iff, h.hasFile_iff]
  have hasks : ∀ path, AsksFor tree root path ↔ AsksFor tree' root path := fun path => by
    simp only [AsksFor, LooksAt, h.resolve, h.hasDirectory_iff, h.node?]
  constructor
  · intro hscan
    exact ⟨hscan.ascending, fun file => (hscan.mem_iff file).trans (hsource file),
      fun hpath => h.tooLong_iff.not.mp (hscan.short ((hasks _).mpr hpath))⟩
  · intro hscan
    exact ⟨hscan.ascending, fun file => (hscan.mem_iff file).trans (hsource file).symm,
      fun hpath => h.tooLong_iff.not.mpr (hscan.short ((hasks _).mp hpath))⟩

/-- **The scan is exact**: it is every source file below the root and nothing else, each once and
in ascending order of the components, and the same for every order of listing. It fails only where
it asks for a path that is too long. -/
theorem sourceFiles_exact (hwell : tree.WellFormed) (root : Path) :
    match sourceFiles tree root with
    | .ok files => IsScan tree root files ∧
        ∀ tree' : FileTree, tree.SameNodes tree' → sourceFiles tree' root = .ok files
    | .error failure =>
      ∃ path, AsksFor tree root path ∧ tree.TooLong path ∧ failure = ⟨.nameTooLong, path⟩ := by
  have hscan := sourceFiles_isScan hwell root
  cases hfiles : sourceFiles tree root with
  | error failure => rwa [hfiles] at hscan
  | ok files =>
    rw [hfiles] at hscan
    refine ⟨hscan, fun tree' hsame => ?_⟩
    have hscan' := sourceFiles_isScan (hsame.wellFormed hwell) root
    cases hfiles' : sourceFiles tree' root with
    | ok files' =>
      rw [hfiles'] at hscan'
      rw [((isScan_iff_of_sameNodes hsame).mp hscan).unique hscan']
    | error failure =>
      rw [hfiles'] at hscan'
      obtain ⟨path, hasks, hlong, -⟩ := hscan'
      exact absurd hlong (((isScan_iff_of_sameNodes hsame).mp hscan).short hasks)

/-- Two files and three directories below the root, of which one has the name of a source file and
one is left out. -/
def mixedTree : FileTree where
  cwd := []
  nodes := [(["s"], .directory), (["s", "b.py"], .file ByteArray.empty),
    (["s", "a.py"], .directory),
    (["s", "a.py", ".c.py"], .file ByteArray.empty), (["s", ".git"], .directory),
    (["s", ".git", "d.py"], .file ByteArray.empty)]

/-- Everything in it is collected, also what is left out afterwards. -/
theorem filesBelow_mixedTree :
    filesBelow mixedTree ⟨false, ["s"]⟩ = .ok [⟨false, ["s", "b.py"]⟩,
      ⟨false, ["s", "a.py", ".c.py"]⟩, ⟨false, ["s", ".git", "d.py"]⟩] := by
  have hroot : mixedTree.resolve ⟨false, ["s"]⟩ = .ok ["s"] := by decide +kernel
  have hpackage : mixedTree.resolve (Path.entry ⟨false, ["s"]⟩ "a.py") = .ok ["s", "a.py"] := by
    decide +kernel
  have hskipped : mixedTree.resolve (Path.entry ⟨false, ["s"]⟩ ".git") = .ok ["s", ".git"] := by
    decide +kernel
  have hinside : filesBelow mixedTree (Path.entry ⟨false, ["s"]⟩ "a.py") =
      .ok [⟨false, ["s", "a.py", ".c.py"]⟩] := by
    rw [filesBelow_of_resolve hpackage]
    decide +kernel
  have haside : filesBelow mixedTree (Path.entry ⟨false, ["s"]⟩ ".git") =
      .ok [⟨false, ["s", ".git", "d.py"]⟩] := by
    rw [filesBelow_of_resolve hskipped]
    decide +kernel
  have hdirectories : (mixedTree.namesIn ["s"]).filter (fun name =>
      mixedTree.isDirectoryAt (["s"] ++ [name])) = ["a.py", ".git"] := by decide +kernel
  rw [filesBelow_of_resolve hroot, hdirectories]
  simp only [List.mapM_cons, List.mapM_nil, hinside, haside]
  decide +kernel

/-- A file that is hidden itself is scanned, one in a directory that is left out is not. -/
theorem sourceFiles_exact_of_mixedTree :
    mixedTree.WellFormed ∧ ∃ files, sourceFiles mixedTree ⟨false, ["s"]⟩ = .ok files ∧
      files.map Path.toString = ["s/a.py/.c.py", "s/b.py"] ∧
        IsScan mixedTree ⟨false, ["s"]⟩ files := by
  have hwell : mixedTree.WellFormed := wellFormed_of_nodes (by decide) (by decide)
  have hroot : mixedTree.resolve ⟨false, ["s"]⟩ = .ok ["s"] := by decide +kernel
  have hkept : [(⟨false, ["s", "b.py"]⟩ : Path), ⟨false, ["s", "a.py", ".c.py"]⟩,
      ⟨false, ["s", ".git", "d.py"]⟩].filter (fun file =>
        (file.relativeTo? ⟨false, ["s"]⟩).any isIncluded) =
      [⟨false, ["s", "b.py"]⟩, ⟨false, ["s", "a.py", ".c.py"]⟩] := by decide +kernel
  have hlast : Path.partsAscend ["s", "b.py"] ["s", "a.py", ".c.py"] = false := by decide +kernel
  have hfiles : sourceFiles mixedTree ⟨false, ["s"]⟩ =
      .ok [⟨false, ["s", "a.py", ".c.py"]⟩, ⟨false, ["s", "b.py"]⟩] := by
    rw [sourceFiles_of_resolve hroot (isDirectoryAt_iff.mp (by decide +kernel)),
      filesBelow_mixedTree]
    simp [Except.map, hkept, List.mergeSort, hlast]
  have hscan := sourceFiles_exact hwell ⟨false, ["s"]⟩
  rw [hfiles] at hscan
  exact ⟨hwell, _, hfiles, by decide, hscan.1⟩

/-! ### A root that winds up and down -/

/-- A name that a directory can hold. -/
def longName : String := String.ofList (List.replicate 250 'd')

/-- The name of a source file. -/
def longFileName : String := String.ofList (List.replicate 40 'f') ++ sourceSuffix

/-- A source file in a directory. -/
def windingTree : FileTree where
  cwd := []
  nodes := [([longName], .directory), ([longName, longFileName], .file ByteArray.empty)]

/-- A path to the directory that goes in and out of it on the way. -/
def windingRoot : Path where
  absolute := false
  parts := (List.replicate 15 [longName, ".."]).flatten ++ [longName]

theorem isEntryName_longName : IsEntryName longName := by
  refine ⟨⟨fun hslash => ?_, by decide +kernel, by decide +kernel⟩, by decide +kernel⟩
  have hletter := List.eq_of_mem_replicate (String.toList_ofList ▸ hslash)
  exact absurd hletter (by decide)

theorem wellFormed_windingTree : windingTree.WellFormed := by
  refine wellFormed_of_nodes (fun _ h => absurd h List.not_mem_nil)
    (List.forall_mem_cons.mpr ⟨?_, List.forall_mem_singleton.mpr ?_⟩)
  · intro name hname
    obtain rfl : longName = name := Option.some.inj hname
    exact ⟨isEntryName_longName, rfl⟩
  · intro name hname
    obtain rfl : longFileName = name := Option.some.inj hname
    exact ⟨by decide +kernel, by decide +kernel⟩

/-- **A source file that is not scanned**: its path from the root is too long to be asked for, so
the scan fails. -/
theorem sourceFiles_of_winding_root :
    windingTree.WellFormed ∧
      IsSourceFile windingTree windingRoot (windingRoot.below [longFileName]) ∧
      sourceFiles windingTree windingRoot =
        .error ⟨.nameTooLong, windingRoot.below [longFileName]⟩ := by
  have hwell := wellFormed_windingTree
  have hroot : windingTree.resolve windingRoot = .ok [longName] := by decide +kernel
  have hnames : (windingTree.namesIn [longName]).filter isSourceName = [longFileName] := by
    decide +kernel
  have hdirectory : windingTree.HasDirectory [longName] :=
    isDirectoryAt_iff.mp (by decide +kernel)
  have hfile : windingTree.HasFile ([longName] ++ [longFileName]) :=
    ⟨ByteArray.empty, by simp [FileTree.node?, windingTree]⟩
  have hlong : windingTree.isFile (windingRoot.below [longFileName]) =
      .error ⟨.nameTooLong, windingRoot.below [longFileName]⟩ := by
    obtain ⟨_, hnode⟩ := hfile
    exact isFile_eq_error_iff.mpr
      ⟨rfl, (hwell.tooLong_below_iff hroot hnode).mpr (by decide +kernel)⟩
  refine ⟨hwell, ⟨[longName], [longFileName], hroot, hdirectory, rfl, hfile, ?_, ?_⟩, ?_⟩
  · exact endsInSourceName_singleton.mpr (by decide +kernel)
  · rintro name ⟨⟩
  · rw [sourceFiles_of_resolve hroot hdirectory, filesBelow_of_resolve hroot, hnames]
    change Except.map _ ([windingRoot.below [longFileName]].filterM windingTree.isFile >>= _) = _
    simp only [List.filterM, List.filterAuxM, hlong]
    rfl

end ProviderRegistry.Source
