import ProviderRegistry.Proofs.Storage.Directory

/-!
# Directories of files alone

A directory is **flat** when there is nothing but files in it, each under a name that it
**accepts** (`Directory.Flat`); one that is **yet to be made** comes to be flat, and empty, when
the first file is written (`Directory.Unmade`). Either is **ready**, and stays so: what it holds is
then described by `Directory.octets?` alone, the octets of the file under each name. A file that is
written changes that under its own name and nowhere else (`Ready.writeFile`), so a log that is kept
changes nothing under the other names (`Ready.keepLog`). The names that are told are those that
have a file and are not that of a log (`Ready.names`), a listing is the text in the file
(`Ready.listing`), and after the listings were deleted there is none (`Ready.delete`).
-/

namespace ProviderRegistry.Directory

variable {directory : Directory} {location : Location} {name other : String}

/-! ### What a directory holds -/

/-- A directory **accepts** a name when a file can be called that, and its path be asked for. -/
def Accepts (directory : Directory) (name : String) : Prop :=
  Path.IsName name ∧ name.utf8ByteSize ≤ FileTree.maxNameSize ∧
    (directory.path name).toString.utf8ByteSize ≤ FileTree.maxPathSize

instance (directory : Directory) (name : String) : Decidable (directory.Accepts name) :=
  inferInstanceAs (Decidable (_ ∧ _ ∧ _))

/-- The octets of the file that a directory has under a name. -/
def octets? (directory : Directory) (name : String) : Option ByteArray :=
  match directory.tree.resolve directory.resources with
  | .error _ => none
  | .ok location =>
    match directory.tree.node? (location ++ [name]) with
    | some (.file octets) => some octets
    | _ => none

/-- A directory is **flat** at a location when it is there, and everything in it is a file under a
name that it accepts. -/
structure Flat (directory : Directory) (location : Location) : Prop where
  resources : directory.tree.resolve directory.resources = .ok location
  isDirectory : directory.tree.HasDirectory location
  files : ∀ name node, directory.tree.node? (location ++ [name]) = some node →
    (∃ octets, node = .file octets) ∧ directory.Accepts name

/-- A directory is **yet to be made** when it is not there, and would be empty if it were made. -/
def Unmade (directory : Directory) : Prop :=
  directory.tree.isDirectory directory.resources = .ok false ∧
    ∃ made, directory.tree.makeDirectories directory.resources = (made, .ok ()) ∧
      ∀ location, made.resolve directory.resources = .ok location →
        ∀ name, made.node? (location ++ [name]) = none

/-- A directory is **ready** when it is flat or yet to be made. -/
def Ready (directory : Directory) : Prop :=
  directory.Unmade ∨ ∃ location, directory.Flat location

theorem octets?_of_resolve (h : directory.tree.resolve directory.resources = .ok location)
    (name : String) : directory.octets? name =
      match directory.tree.node? (location ++ [name]) with
      | some (.file octets) => some octets
      | _ => none := by
  delta octets?
  rw [h]

/-- The octets that the directory has in some other tree. -/
theorem octets?_of_tree {tree : FileTree} (h : tree.resolve directory.resources = .ok location)
    (name : String) : octets? { directory with tree } name =
      match tree.node? (location ++ [name]) with
      | some (.file octets) => some octets
      | _ => none :=
  @octets?_of_resolve { directory with tree } location h name

theorem octets?_of_unresolved {failure : OsFailure}
    (h : directory.tree.resolve directory.resources = .error failure) (name : String) :
    directory.octets? name = none := by
  delta octets?
  rw [h]

theorem octets?_eq_some_iff {octets : ByteArray} :
    directory.octets? name = some octets ↔ ∃ location,
      directory.tree.resolve directory.resources = .ok location ∧
        directory.tree.node? (location ++ [name]) = some (.file octets) := by
  cases hresources : directory.tree.resolve directory.resources with
  | error failure => simp [octets?_of_unresolved hresources]
  | ok location =>
    rw [octets?_of_resolve hresources]
    cases hnode : directory.tree.node? (location ++ [name]) with
    | none => simp [hnode]
    | some node => cases node <;> simp [hnode]

/-- In a flat directory there is nothing but the files. -/
theorem Flat.node?_eq (h : directory.Flat location) (name : String) :
    directory.tree.node? (location ++ [name]) = (directory.octets? name).map Node.file := by
  rw [octets?_of_resolve h.resources]
  cases hnode : directory.tree.node? (location ++ [name]) with
  | none => rfl
  | some node =>
    obtain ⟨⟨octets, rfl⟩, -⟩ := h.files name node hnode
    rfl

theorem Flat.resolve_path (h : directory.Flat location) (hname : directory.Accepts name) :
    directory.tree.resolve (directory.path name) = .ok (location ++ [name]) :=
  FileTree.resolve_child_of_size hname.1 h.resources h.isDirectory hname.2.1 hname.2.2

theorem Flat.accepts_of_octets? (h : directory.Flat location) {octets : ByteArray}
    (hname : directory.octets? name = some octets) : directory.Accepts name := by
  have hnode := h.node?_eq name
  rw [hname] at hnode
  exact (h.files name _ hnode).2

theorem Flat.not_hasDirectory (h : directory.Flat location) (name : String) :
    ¬ directory.tree.HasDirectory (location ++ [name]) := by
  intro hdirectory
  obtain ⟨⟨octets, hfile⟩, -⟩ := h.files name _ hdirectory
  cases hfile

/-- A path that leads into a flat directory ends in a name that is accepted. -/
theorem Flat.accepts_of_resolve (h : directory.Flat location) (hname : Path.IsName name)
    {found : Location} (hfound : directory.tree.resolve (directory.path name) = .ok found) :
    directory.Accepts name := by
  refine ⟨hname, ?_, (FileTree.resolve_eq_ok_iff.mp hfound).1⟩
  by_contra hsize
  have hlong := FileTree.tooLong_child hname h.resources h.isDirectory (Nat.lt_of_not_le hsize)
  cases hfound.symm.trans hlong

/-- In a directory that is yet to be made there is no file. -/
theorem Unmade.octets?_eq_none (h : directory.Unmade) (name : String) :
    directory.octets? name = none := by
  obtain ⟨-, made, hmade, hempty⟩ := h
  have hextends := FileTree.extends_makeDirectories directory.tree directory.resources
  rw [hmade] at hextends
  -- a file that is there would still be there after the directory was made
  refine Option.eq_none_iff_forall_ne_some.mpr fun octets hoctets => ?_
  obtain ⟨location, hresources, hnode⟩ := octets?_eq_some_iff.mp hoctets
  obtain ⟨octets', hfile⟩ := hextends.file (location ++ [name]) ⟨octets, hnode⟩
  rw [hempty location (hextends.supports.resolve hresources) name] at hfile
  cases hfile

/-- Whether a directory is ready does not depend on the time. -/
theorem Ready.at_time (h : directory.Ready) (clock : ℕ) : Ready { directory with clock } := by
  rcases h with hunmade | ⟨location, hflat⟩
  · exact Or.inl hunmade
  · exact Or.inr ⟨location, hflat.resources, hflat.isDirectory, hflat.files⟩

/-! ### Making the directory -/

/-- **A ready directory** can be made, is flat then, and has the files that it had. -/
theorem Ready.make (h : directory.Ready) :
    ∃ made location, directory.tree.makeDirectories directory.resources = (made, .ok ()) ∧
      Flat { directory with tree := made } location ∧
      ∀ name, octets? { directory with tree := made } name = directory.octets? name := by
  rcases h with hunmade | ⟨location, hflat⟩
  · have hnone := hunmade.octets?_eq_none
    obtain ⟨-, made, hmade, hempty⟩ := hunmade
    obtain ⟨location, hresources, hdirectory⟩ := FileTree.isDirectory_eq_ok_true_iff.mp
      (FileTree.isDirectory_of_makeDirectories hmade)
    have hnode := hempty location hresources
    refine ⟨made, location, hmade, ⟨hresources, hdirectory, fun name node hsome => ?_⟩,
      fun name => ?_⟩
    · exact absurd (hsome.symm.trans (hnode name)) (Option.some_ne_none node)
    · rw [hnone, octets?_of_tree hresources]
      simp only [hnode]
  · have hthere := FileTree.isDirectory_of_resolve hflat.resources hflat.isDirectory
    exact ⟨directory.tree, location, FileTree.makeDirectories_of_isDirectory hthere, hflat,
      fun _ => rfl⟩

/-! ### Writing -/

/-- The directory after a file was put at a location. -/
def putFile (directory : Directory) (location : Location) (octets : ByteArray) : Directory :=
  { directory with tree := directory.tree.put location (.file octets) }

/-- A file is put into a flat directory. -/
theorem Flat.putFile (h : directory.Flat location) (hname : directory.Accepts name)
    (octets : ByteArray) :
    (directory.putFile (location ++ [name]) octets).Flat location ∧
      (directory.putFile (location ++ [name]) octets).octets? name = some octets ∧
      ∀ other, other ≠ name →
        (directory.putFile (location ++ [name]) octets).octets? other =
          directory.octets? other := by
  have hnot := h.not_hasDirectory name
  have hextends := FileTree.extends_put_file hnot octets
  have hresources := hextends.supports.resolve h.resources
  have hself :
      (directory.tree.put (location ++ [name]) (.file octets)).node? (location ++ [name]) =
        some (.file octets) :=
    FileTree.node?_put_self (FileTree.not_above_of_not_hasDirectory hnot) _
  have hother : ∀ other, other ≠ name →
      (directory.tree.put (location ++ [name]) (.file octets)).node? (location ++ [other]) =
        directory.tree.node? (location ++ [other]) := by
    intro other hne
    refine FileTree.node?_put_of_ne (fun heq => hne ?_) _
    exact List.singleton_inj.mp (List.append_cancel_left heq)
  refine ⟨⟨hresources, hextends.directory location h.isDirectory, fun other node hnode => ?_⟩,
    ?_, fun other hne => ?_⟩
  · by_cases hne : other = name
    · subst hne
      obtain rfl := Option.some.inj (hself.symm.trans hnode)
      exact ⟨⟨octets, rfl⟩, hname⟩
    · exact h.files other node ((hother other hne).symm.trans hnode)
  · rw [Directory.putFile, octets?_of_tree hresources]
    simp only [hself]
  · rw [Directory.putFile, octets?_of_tree hresources, octets?_of_resolve h.resources]
    simp only [hother other hne]

/-- **A file is written** to a ready directory if its name is accepted, and only then. The
directory is flat then, and has the file beside those that it had. -/
theorem Ready.writeFile (h : directory.Ready) (hname : Path.IsName name) (text : String) :
    (directory.writeFile name text).1.Ready ∧
      (match (directory.writeFile name text).2 with
        | .ok () => (directory.writeFile name text).1.octets? name = some text.toUTF8
        | .error _ => ¬ directory.Accepts name) ∧
      ∀ other, other ≠ name →
        (directory.writeFile name text).1.octets? other = directory.octets? other := by
  obtain ⟨made, location, hmade, hflat, hsame⟩ := h.make
  rw [Directory.writeFile, hmade]
  simp only [FileTree.writeText_coe]
  cases hwrite : made.writeOctets (directory.path name) text.toUTF8 with
  | error failure =>
    refine ⟨Or.inr ⟨location, hflat⟩, fun haccepts => ?_, fun other _ => hsame other⟩
    have hresolve := hflat.resolve_path haccepts
    have hput := FileTree.writeOctets_of_resolve hresolve (hflat.not_hasDirectory name) text.toUTF8
    cases hwrite.symm.trans hput
  | ok written =>
    obtain ⟨found, hresolve, -⟩ := bind_eq_ok_iff.mp hwrite
    have haccepts := hflat.accepts_of_resolve hname hresolve
    have hput := FileTree.writeOctets_of_resolve (hflat.resolve_path haccepts)
      (hflat.not_hasDirectory name) text.toUTF8
    obtain rfl := Except.ok.inj (hwrite.symm.trans hput)
    obtain ⟨hput, hself, hother⟩ := hflat.putFile haccepts text.toUTF8
    exact ⟨Or.inr ⟨location, hput⟩, hself, fun other hne => (hother other hne).trans (hsame other)⟩

/-! ### Logs -/

theorem toList_log (clock : ℕ) :
    (s!"log{clock}.log").toList = "log".toList ++ Nat.toDigits 10 clock ++ ".log".toList := by
  change ("log" ++ clock.repr ++ ".log").toList = _
  rw [String.toList_append, String.toList_append, Nat.toList_repr]

/-- The name of a log is one that a file can have. -/
theorem isName_log (clock : ℕ) : Path.IsName s!"log{clock}.log" := by
  have hlonger : ∀ other : String, other.toList.length < 7 → s!"log{clock}.log" ≠ other := by
    rintro other hlength rfl
    rw [toList_log, List.length_append, List.length_append] at hlength
    simp at hlength
    omega
  refine ⟨?_, ?_, hlonger ".." (by decide)⟩
  · rw [toList_log, List.mem_append, List.mem_append]
    rintro ((hslash | hslash) | hslash)
    · exact absurd hslash (by decide)
    · exact absurd (Nat.isDigit_of_mem_toDigits (by decide) (by decide) hslash) (by decide)
    · exact absurd hslash (by decide)
  · rw [Path.counts, Bool.and_eq_true, bne_iff_ne, bne_iff_ne]
    exact ⟨hlonger "" (by decide), hlonger "." (by decide)⟩

theorem isLogName_log (clock : ℕ) : Listing.isLogName s!"log{clock}.log" = true := by
  have hfolded : (foldCase s!"log{clock}.log").toList =
      ("log".toList ++ Nat.toDigits 10 clock).map Char.toLower ++ ".log".toList := by
    rw [foldCase, String.toList_ofList, toList_log, List.map_append]
    rfl
  rw [Listing.isLogName, List.isSuffixOf_iff_suffix, hfolded]
  exact List.suffix_append _ _

/-- **A log that is whole is kept** without a trace among the listings, and without a complaint. -/
theorem Ready.keepLog (h : directory.Ready) {text : RawText} (hwhole : text.isWhole = true) :
    (directory.keepLog text).2.outcome = .ok () ∧ (directory.keepLog text).1.Ready ∧
      ∀ name, Listing.isLogName name = false →
        (directory.keepLog text).1.octets? name = directory.octets? name := by
  constructor
  · cases hkeep : (directory.keepLog text).2.outcome with
    | ok value => rfl
    | error fault =>
      have hnot := (outcome_keepLog_eq_error hkeep).1
      rw [hwhole] at hnot
      cases hnot
  obtain ⟨text, rfl⟩ := RawText.isWhole_iff.mp hwhole
  rw [Directory.keepLog]
  split
  · exact ⟨h, fun _ _ => rfl⟩
  · obtain ⟨hready, -, hother⟩ := h.writeFile (isName_log directory.clock) text
    refine ⟨hready, fun name hlog => hother name fun hname => ?_⟩
    rw [hname, isLogName_log] at hlog
    cases hlog

/-! ### Reading -/

theorem Unmade.names (h : directory.Unmade) : directory.names = .ok [] := by
  rw [Directory.names, bind_of_eq_ok h.1]
  rfl

/-- There is no file below a directory that is yet to be made. -/
theorem Unmade.isFile (h : directory.Unmade) (hname : directory.Accepts name) :
    directory.tree.isFile (directory.path name) = .ok false := by
  obtain ⟨habsent, -⟩ := h
  cases hfile : directory.tree.isFile (directory.path name) with
  | error failure =>
    have hshort : ¬ directory.tree.TooLong directory.resources := by
      intro hlong
      cases habsent.symm.trans (FileTree.isDirectory_eq_error_iff.mpr ⟨rfl, hlong⟩)
    exact absurd (FileTree.isFile_eq_error_iff.mp hfile).2
      (FileTree.not_tooLong_child hname.1 hshort hname.2.1 hname.2.2)
  | ok isFile =>
    cases isFile with
    | false => rfl
    | true =>
      -- what the path of the directory leads to would be a directory
      obtain ⟨found, hfound, -⟩ := FileTree.isFile_eq_ok_true_iff.mp hfile
      obtain ⟨above, habove, hdirectory, -⟩ := FileTree.resolve_child hname.1 hfound
      cases habsent.symm.trans (FileTree.isDirectory_of_resolve habove hdirectory)

theorem Flat.isFile_iff (h : directory.Flat location) (hname : directory.Accepts name) :
    directory.tree.isFile (directory.path name) = .ok true ↔
      ∃ octets, directory.octets? name = some octets := by
  rw [FileTree.isFile_eq_ok_true_iff]
  have hresolve := h.resolve_path hname
  constructor
  · rintro ⟨found, hfound, octets, hnode⟩
    obtain rfl := Except.ok.inj (hresolve.symm.trans hfound)
    exact ⟨octets, octets?_eq_some_iff.mpr ⟨location, h.resources, hnode⟩⟩
  · rintro ⟨octets, hoctets⟩
    refine ⟨location ++ [name], hresolve, octets, ?_⟩
    rw [h.node?_eq, hoctets]
    rfl

/-- **The names** of a ready directory are those that have a file and are not that of a log. -/
theorem Ready.names (h : directory.Ready) :
    ∃ names, directory.names = .ok names ∧ names.Pairwise (· ≤ ·) ∧
      ∀ name, name ∈ names ↔
        (∃ octets, directory.octets? name = some octets) ∧ Listing.isLogName name = false := by
  rcases h with hunmade | ⟨location, hflat⟩
  · refine ⟨[], hunmade.names, List.Pairwise.nil, fun name => ?_⟩
    rw [hunmade.octets?_eq_none]
    simp
  · have haccepts : ∀ name ∈ directory.tree.namesIn location, directory.Accepts name := by
      intro name hname
      obtain ⟨-, node, hnode⟩ := FileTree.mem_namesIn_iff.mp hname
      exact (hflat.files name node hnode).2
    obtain ⟨names, hnames⟩ := (exists_names_iff hflat.resources hflat.isDirectory).mpr
      fun name hname =>
        FileTree.exists_isFile_of_resolve (hflat.resolve_path (haccepts name hname))
    refine ⟨names, hnames, pairwise_names hnames, fun name => ?_⟩
    rw [mem_names_iff hnames hflat.resources hflat.isDirectory]
    constructor
    · rintro ⟨hbelow, hfile, hlog⟩
      exact ⟨(hflat.isFile_iff (haccepts name hbelow)).mp hfile, hlog⟩
    · rintro ⟨⟨octets, hoctets⟩, hlog⟩
      have hname := hflat.accepts_of_octets? hoctets
      have hnode : directory.tree.node? (location ++ [name]) = some (.file octets) := by
        rw [hflat.node?_eq, hoctets]
        rfl
      exact ⟨FileTree.mem_namesIn_iff.mpr ⟨hname.1, _, hnode⟩,
        (hflat.isFile_iff hname).mpr ⟨octets, hoctets⟩, hlog⟩

/-- **The listing** of a name that a ready directory accepts is the text of its file, if there is
one. -/
theorem Ready.listing (h : directory.Ready) (hname : directory.Accepts name) {text : Option String}
    (htext : directory.octets? name = text.map String.toUTF8)
    (hplain : ∀ content ∈ text, '\r' ∉ content.toList) :
    (Storage.listing directory name).outcome = .ok text := by
  change (directory.listing name).outcome = .ok text
  cases text with
  | none =>
    have hfile : directory.tree.isFile (directory.path name) = .ok false := by
      rcases h with hunmade | ⟨location, hflat⟩
      · exact hunmade.isFile hname
      · refine FileTree.isFile_of_node?_eq_none (hflat.resolve_path hname) ?_
        rw [hflat.node?_eq, htext]
        rfl
    rw [listing_of_isFile_false hfile]
    rfl
  | some content =>
    rcases h with hunmade | ⟨location, hflat⟩
    · cases (hunmade.octets?_eq_none name).symm.trans htext
    · have hfile := (hflat.isFile_iff hname).mpr ⟨content.toUTF8, htext⟩
      have hnode : directory.tree.node? (location ++ [name]) = some (.file content.toUTF8) := by
        rw [hflat.node?_eq, htext]
        rfl
      have hread :=
        FileTree.readText_of_node? (hflat.resolve_path hname) hnode (hplain content rfl)
      delta Directory.listing
      rw [hfile, hread]
      rfl

/-! ### Deleting -/

/-- **After the listings were deleted** there is no file but those of logs. -/
theorem Ready.delete (h : directory.Ready) :
    (Storage.delete directory).2.outcome = .ok () ∧ (Storage.delete directory).1.Ready ∧
      ∀ name, Listing.isLogName name = false →
        (Storage.delete directory).1.octets? name = none := by
  obtain ⟨names, hnames, -, hmem⟩ := h.names
  change directory.delete.2.outcome = .ok () ∧ directory.delete.1.Ready ∧
    ∀ name, Listing.isLogName name = false → directory.delete.1.octets? name = none
  rw [delete_of_names hnames]
  rcases h with hunmade | ⟨location, hflat⟩
  · obtain rfl : names = [] := Except.ok.inj (hnames.symm.trans hunmade.names)
    exact ⟨rfl, Or.inl hunmade, fun name _ => hunmade.octets?_eq_none name⟩
  · have hthins := thins_removeFiles (.refl directory.tree) names
    -- every name has a file of its own, so each of them can be taken away
    have hremoved : (directory.removeFiles names).2 = .ok () := by
      refine @removeFiles_eq_ok _ _ (.refl directory.tree) location _ (nodup_names hnames)
        fun name hname => ?_
      obtain ⟨⟨octets, hoctets⟩, -⟩ := (hmem name).mp hname
      refine ⟨hflat.resolve_path (hflat.accepts_of_octets? hoctets), octets, ?_⟩
      rw [hflat.node?_eq, hoctets]
      rfl
    have hgone := node?_of_removeFiles_eq_ok (.refl directory.tree) hremoved
    have hresources : (directory.removeFiles names).1.tree.resolve
        (directory.removeFiles names).1.resources = .ok location := by
      rw [resources_removeFiles]
      exact hthins.toSupports.resolve hflat.resources
    have hheld := FileTree.held_of_resolve hflat.resources
    have hleft : ∀ name node,
        (directory.removeFiles names).1.tree.node? (location ++ [name]) = some node →
          directory.tree.node? (location ++ [name]) = some node := by
      intro name node hnode
      rcases hthins.node (location ++ [name]) with hsame | hnone
      · exact hsame.symm.trans hnode
      · cases hnone.symm.trans hnode
    refine ⟨hremoved, Or.inr ⟨location, hresources,
      hthins.directory location hheld hflat.isDirectory, fun name node hnode => ?_⟩,
      fun name hlog => ?_⟩
    · rw [Accepts, path_removeFiles]
      exact hflat.files name node (hleft name node hnode)
    refine Option.eq_none_iff_forall_ne_some.mpr fun octets hoctets => ?_
    obtain ⟨found, hfound, hnode⟩ := octets?_eq_some_iff.mp hoctets
    obtain rfl := Except.ok.inj (hresources.symm.trans hfound)
    -- the file was there before, so its name was told and the file removed
    have hbefore : directory.octets? name = some octets :=
      octets?_eq_some_iff.mpr ⟨location, hflat.resources, hleft name _ hnode⟩
    have htold := (hmem name).mpr ⟨⟨octets, hbefore⟩, hlog⟩
    have hnone := hgone name htold _ (hflat.resolve_path (hflat.accepts_of_octets? hbefore))
    cases hnone.symm.trans hnode

end ProviderRegistry.Directory
