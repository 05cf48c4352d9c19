import ProviderRegistry.Proofs.FileTree

/-!
# Trees that change, and the paths that still lead through them

What a path leads to depends on nothing but the directories on the way. A tree that **supports**
another one keeps all of those, and every path that led somewhere leads there still
(`Supports.resolve`). Two kinds of change are of this sort. Writing files and making directories
**extends** a tree: what was a directory or a file is one afterwards (`writeOctets_eq_ok`,
`extends_makeDirectories`), and a directory that was made is there
(`isDirectory_of_makeDirectories`). Taking files out **thins** it (`Thins.remove`).

Whether a directory could be made or not, trying it once more changes nothing
(`makeDirectories_again`).
-/

namespace ProviderRegistry.FileTree

variable {tree tree' tree'' : FileTree} {location other : Location} {path : Path} {name : String}

/-! ### Trees that support a tree -/

/-- A tree **supports** another one when every path that leads somewhere there leads to the same
location here: the directories on the way are all still there. -/
structure Supports (tree tree' : FileTree) : Prop where
  cwd : tree'.cwd = tree.cwd
  directory : ∀ location, tree.Held location → tree.HasDirectory location →
    tree'.HasDirectory location

/-- A path that can be followed still can where all directories are left. -/
theorem Supports.follow (h : tree.Supports tree') {parts : List String} {found : Location}
    (hheld : tree.Held location) (hfollow : tree.follow location parts = .ok found) :
    tree'.follow location parts = .ok found := by
  -- the location that is reached so far is held all the way
  induction parts generalizing location with
  | nil => exact hfollow
  | cons part parts ih =>
    have hdirectory := hasDirectory_of_follow_cons hfollow
    rw [follow_cons hdirectory] at hfollow
    rw [follow_cons (h.directory location hheld hdirectory)]
    by_cases hup : part = ".."
    · rw [if_pos hup] at hfollow ⊢
      exact ih (hheld.dropLast hdirectory) hfollow
    · rw [if_neg hup] at hfollow ⊢
      by_cases hlong : maxNameSize < part.utf8ByteSize
      · rw [if_pos hlong] at hfollow
        cases hfollow
      · rw [if_neg hlong] at hfollow ⊢
        exact ih (hheld.child hdirectory part) hfollow

/-- **A path that leads somewhere** leads there in every tree that supports this one. -/
theorem Supports.resolve (h : tree.Supports tree') (hresolve : tree.resolve path = .ok location) :
    tree'.resolve path = .ok location := by
  obtain ⟨hsize, hfollow⟩ := resolve_eq_ok_iff.mp hresolve
  rw [resolve_eq_ok_iff, h.cwd]
  refine ⟨hsize, h.follow ?_ hfollow⟩
  split
  · exact held_nil
  · exact held_cwd

/-! ### More files and directories -/

/-- A tree **extends** another one when what was a directory or a file there is one here. -/
structure Extends (tree tree' : FileTree) : Prop where
  cwd : tree'.cwd = tree.cwd
  directory : ∀ location, tree.HasDirectory location → tree'.HasDirectory location
  file : ∀ location, tree.HasFile location → tree'.HasFile location

theorem Extends.refl (tree : FileTree) : tree.Extends tree := ⟨rfl, fun _ => id, fun _ => id⟩

theorem Extends.trans (h : tree.Extends tree') (h' : tree'.Extends tree'') : tree.Extends tree'' :=
  ⟨h'.cwd.trans h.cwd, fun location hd => h'.directory location (h.directory location hd),
    fun location hf => h'.file location (h.file location hf)⟩

/-- A tree that only grew still has its directories. -/
theorem Extends.supports (h : tree.Extends tree') : tree.Supports tree' :=
  ⟨h.cwd, fun location _ => h.directory location⟩

/-- A file put where there is no directory only adds to the tree, or replaces a file. -/
theorem extends_put_file (h : ¬ tree.HasDirectory location) (octets : ByteArray) :
    tree.Extends (tree.put location (.file octets)) := by
  refine ⟨cwd_put _, fun other hother => ?_, fun other hother => ?_⟩
  · have hne : other ≠ location := fun heq => h (heq ▸ hother)
    rwa [HasDirectory, node?_put_of_ne hne]
  · by_cases heq : other = location
    · rw [heq]
      exact ⟨octets, node?_put_self (not_above_of_not_hasDirectory h) _⟩
    · rwa [HasFile, node?_put_of_ne heq]

/-- A directory put where nothing is only adds to the tree. -/
theorem extends_put_directory (h : tree.node? location = none) :
    tree.Extends (tree.put location .directory) := by
  have hne : ∀ other, tree.node? other ≠ none → other ≠ location := fun other hsome heq =>
    hsome (heq ▸ h)
  refine ⟨cwd_put _, fun other hother => ?_, fun other hother => ?_⟩
  · rw [HasDirectory, node?_put_of_ne (hne other (by rw [hother]; exact Option.some_ne_none _))]
    exact hother
  · obtain ⟨octets, hfile⟩ := hother
    refine ⟨octets, ?_⟩
    rw [node?_put_of_ne (hne other (by rw [hfile]; exact Option.some_ne_none _)), hfile]

/-- **A file that was written** stands where its path leads, and nothing was lost. -/
theorem writeOctets_eq_ok {octets : ByteArray} (h : tree.writeOctets path octets = .ok tree') :
    ∃ location, tree.resolve path = .ok location ∧ tree'.HasFile location ∧
      tree.Extends tree' := by
  obtain ⟨location, hresolve, hput⟩ := bind_eq_ok_iff.mp h
  split at hput
  · cases hput
  · rename_i hnode
    obtain rfl := Except.ok.inj hput
    have hnot : ¬ tree.HasDirectory location := hnode
    exact ⟨location, hresolve, ⟨octets, node?_put_self (not_above_of_not_hasDirectory hnot) _⟩,
      extends_put_file hnot octets⟩

/-- A text that a file may be opened for is written as some octets; whether it was written whole
depends on the text alone. -/
theorem writeText_cases (tree : FileTree) (path : Path) (text : RawText) :
    (∃ failure, tree.writeText path text = (tree, .error (.os failure))) ∨
      ∃ octets written, tree.writeOctets path octets = .ok written ∧
        tree.writeText path text =
          (written, (text.encode.mapError .encoding).map fun _ => ()) := by
  rw [writeText]
  cases hwrite : tree.writeOctets path (text.encode.toOption.getD .empty) with
  | error failure => exact Or.inl ⟨failure, rfl⟩
  | ok written => exact Or.inr ⟨_, written, hwrite, rfl⟩

/-- A string is written as its octets. -/
theorem writeText_coe (tree : FileTree) (path : Path) (text : String) :
    tree.writeText path text = match tree.writeOctets path text.toUTF8 with
      | .error failure => (tree, .error (.os failure))
      | .ok written => (written, .ok ()) := by
  rw [writeText, RawText.encode_coe]
  rfl

/-- A write only adds a file, or replaces one. -/
theorem extends_writeText (tree : FileTree) (path : Path) (text : RawText) :
    tree.Extends (tree.writeText path text).1 := by
  rcases writeText_cases tree path text with
    ⟨failure, hfailed⟩ | ⟨octets, written, hwrite, hwritten⟩
  · rw [hfailed]
    exact .refl tree
  · obtain ⟨-, -, -, hextends⟩ := writeOctets_eq_ok hwrite
    rwa [hwritten]

/-- Only a text that is not whole cannot be encoded. -/
theorem writeText_eq_encoding {text : RawText} {fault : RawText.Unencodable}
    (h : (tree.writeText path text).2 = .error (.encoding fault)) :
    text.isWhole = false ∧ fault = text.unencodable := by
  rcases writeText_cases tree path text with ⟨failure, hfailed⟩ | ⟨octets, written, -, hwritten⟩
  · rw [hfailed] at h
    cases h
  · rw [hwritten] at h
    cases hwhole : text.isWhole with
    | true =>
      obtain ⟨s, rfl⟩ := RawText.isWhole_iff.mp hwhole
      rw [RawText.encode_coe] at h
      cases h
    | false =>
      rw [RawText.encode_of_not_isWhole hwhole] at h
      exact ⟨rfl, (WriteFailure.encoding.inj (Except.error.inj h)).symm⟩

/-- Making a directory only adds it. -/
theorem extends_makeDirectory (h : tree.makeDirectory path = .ok tree') : tree.Extends tree' := by
  obtain ⟨location, -, hput⟩ := bind_eq_ok_iff.mp h
  split at hput
  · cases hput
  · rename_i hnode
    obtain rfl := Except.ok.inj hput
    exact extends_put_directory hnode

/-- Settling on a directory that may be there changes nothing. -/
theorem settleDirectory_fst (failure : OsFailure) :
    (tree.settleDirectory path failure).1 = tree := by
  rw [settleDirectory]
  split <;> rfl

/-- Making a directory with those above it only adds them. -/
theorem extends_makeDirectories (tree : FileTree) (path : Path) :
    tree.Extends (tree.makeDirectories path).1 := by
  fun_induction makeDirectories tree path with
  | case1 tree tree' hmade => exact extends_makeDirectory hmade
  | case2 => exact .refl _
  | case3 tree failure _ _ _ _ tree' failure' habove ih => rwa [habove] at ih
  | case4 tree failure _ _ _ _ tree' habove tree'' hmade ih =>
    rw [habove] at ih
    exact ih.trans (extends_makeDirectory hmade)
  | case5 tree failure _ _ _ _ tree' habove failure' _ _ ih => rwa [habove] at ih
  | case6 tree failure _ _ _ _ tree' habove failure' _ _ ih =>
    rw [habove] at ih
    rwa [settleDirectory_fst]
  | case7 tree failure _ _ =>
    rw [settleDirectory_fst]
    exact .refl _

/-- A file that may be written is put where its path leads. -/
theorem writeOctets_of_resolve (h : tree.resolve path = .ok location)
    (hnot : ¬ tree.HasDirectory location) (octets : ByteArray) :
    tree.writeOctets path octets = .ok (tree.put location (.file octets)) := by
  rw [writeOctets, bind_of_eq_ok h]
  split
  · rename_i hdirectory
    exact absurd hdirectory hnot
  · rfl

/-- A directory that is there cannot be made. -/
theorem makeDirectory_of_isDirectory (h : tree.isDirectory path = .ok true) :
    tree.makeDirectory path = .error ⟨.alreadyExists, path⟩ := by
  obtain ⟨location, hresolve, hdirectory⟩ := isDirectory_eq_ok_true_iff.mp h
  have hnode : tree.node? location = some .directory := hdirectory
  rw [makeDirectory, bind_of_eq_ok hresolve, hnode]

/-- A directory that is there need not be made. -/
theorem makeDirectories_of_isDirectory (h : tree.isDirectory path = .ok true) :
    tree.makeDirectories path = (tree, .ok ()) := by
  rw [makeDirectories, makeDirectory_of_isDirectory h]
  simp only [reduceCtorEq, if_false, settleDirectory, h]

/-- A directory may turn out to be there once the way to it is made. -/
theorem makeDirectories_of_parent (h : tree.makeDirectory path = .error ⟨.noEntry, path⟩)
    (hparts : path.parts ≠ []) (hparent : tree.makeDirectories path.parent = (tree', .ok ()))
    (hdirectory : tree'.isDirectory path = .ok true) :
    tree.makeDirectories path = (tree', .ok ()) := by
  rw [makeDirectories, h]
  simp only [if_true]
  rw [dif_neg hparts, hparent]
  simp only [makeDirectory_of_isDirectory hdirectory, reduceCtorEq, if_false, settleDirectory,
    hdirectory]

/-- A directory that was made is there. -/
theorem isDirectory_of_makeDirectory (h : tree.makeDirectory path = .ok tree') :
    tree'.isDirectory path = .ok true := by
  have hextends := extends_makeDirectory h
  obtain ⟨location, hresolve, hput⟩ := bind_eq_ok_iff.mp h
  split at hput
  · cases hput
  · rename_i hnode
    have habove : ¬ location <+: tree.cwd := fun habove =>
      Option.some_ne_none _ ((hasDirectory_of_above habove).symm.trans hnode)
    obtain rfl := Except.ok.inj hput
    exact isDirectory_of_resolve (hextends.supports.resolve hresolve) (node?_put_self habove _)

/-- What is settled on is a directory. -/
theorem isDirectory_of_settleDirectory {failure : OsFailure}
    (h : tree.settleDirectory path failure = (tree', .ok ())) :
    tree'.isDirectory path = .ok true := by
  rw [settleDirectory] at h
  split at h
  · rename_i hdirectory
    obtain ⟨rfl, -⟩ := Prod.mk.inj h
    exact hdirectory
  · cases (Prod.mk.inj h).2
  · cases (Prod.mk.inj h).2

/-- **A directory that was made** is there. -/
theorem isDirectory_of_makeDirectories (h : tree.makeDirectories path = (tree', .ok ())) :
    tree'.isDirectory path = .ok true := by
  rw [makeDirectories] at h
  split at h
  · rename_i hmade
    obtain ⟨rfl, -⟩ := Prod.mk.inj h
    exact isDirectory_of_makeDirectory hmade
  · split at h
    · split at h
      · cases (Prod.mk.inj h).2
      · split at h
        · cases (Prod.mk.inj h).2
        · split at h
          · rename_i hmade
            obtain ⟨rfl, -⟩ := Prod.mk.inj h
            exact isDirectory_of_makeDirectory hmade
          · split at h
            · cases (Prod.mk.inj h).2
            · exact isDirectory_of_settleDirectory h
    · exact isDirectory_of_settleDirectory h

/-! ### Making directories twice -/

/-- Where a path leads somewhere, it leads through a directory before its last component. -/
theorem isDirectory_parent (h : tree.resolve path = .ok location) (hparts : path.parts ≠ []) :
    tree.isDirectory path.parent = .ok true := by
  obtain ⟨hsize, hfollow⟩ := resolve_eq_ok_iff.mp h
  rw [← List.dropLast_append_getLast hparts, follow_append] at hfollow
  cases hparent : tree.follow (if path.absolute then [] else tree.cwd) path.parts.dropLast with
  | error errno =>
    rw [hparent] at hfollow
    cases hfollow
  | ok above =>
    rw [hparent] at hfollow
    exact isDirectory_of_resolve (resolve_eq_ok_iff.mpr ⟨Path.size_parent_le hsize, hparent⟩)
      (hasDirectory_of_follow_cons hfollow)

/-- A directory whose parent is missing is not there. -/
theorem not_isDirectory_of_makeDirectory {failure : OsFailure}
    (h : tree.makeDirectory path = .error failure) (herrno : failure.errno = .noEntry) :
    tree.isDirectory path ≠ .ok true := by
  intro hdirectory
  obtain rfl := Except.error.inj ((makeDirectory_of_isDirectory hdirectory).symm.trans h)
  cases herrno

/-- What cannot be settled on is no directory. -/
theorem not_isDirectory_of_settleDirectory {failure failure' : OsFailure}
    (h : tree.settleDirectory path failure = (tree', .error failure')) :
    tree'.isDirectory path ≠ .ok true := by
  rw [settleDirectory] at h
  split at h
  · cases (Prod.mk.inj h).2
  · rename_i hnot
    obtain ⟨rfl, -⟩ := Prod.mk.inj h
    rw [hnot]
    simp
  · rename_i hnot
    obtain ⟨rfl, -⟩ := Prod.mk.inj h
    rw [hnot]
    simp

/-- **A directory that could not be made** is not there afterwards. -/
theorem not_isDirectory_of_makeDirectories {failure : OsFailure}
    (h : tree.makeDirectories path = (tree', .error failure)) :
    tree'.isDirectory path ≠ .ok true := by
  fun_induction makeDirectories tree path generalizing failure with
  | case1 => cases (Prod.mk.inj h).2
  | case2 tree cause hmake herrno =>
    obtain ⟨rfl, -⟩ := Prod.mk.inj h
    exact not_isDirectory_of_makeDirectory hmake herrno
  | case3 tree _ _ _ hparts _ above cause habove ih =>
    obtain ⟨rfl, -⟩ := Prod.mk.inj h
    intro hdirectory
    obtain ⟨location, hresolve, -⟩ := isDirectory_eq_ok_true_iff.mp hdirectory
    exact ih habove (isDirectory_parent hresolve hparts)
  | case4 => cases (Prod.mk.inj h).2
  | case5 tree _ _ _ _ _ above _ cause hmake herrno =>
    obtain ⟨rfl, -⟩ := Prod.mk.inj h
    exact not_isDirectory_of_makeDirectory hmake herrno
  | case6 => exact not_isDirectory_of_settleDirectory h
  | case7 => exact not_isDirectory_of_settleDirectory h

/-- A directory that cannot be made at once, and for which no other one is made first, leaves the
tree as it is. -/
theorem makeDirectories_fst (hmake : ∀ made, tree.makeDirectory path ≠ .ok made)
    (hparent : (tree.makeDirectories path.parent).1 = tree) :
    (tree.makeDirectories path).1 = tree := by
  rw [makeDirectories]
  split
  · rename_i made hmade
    exact absurd hmade (hmake made)
  · split
    · split
      · rfl
      · split
        · rename_i habove
          rwa [habove] at hparent
        · rename_i above habove
          rw [habove] at hparent
          obtain rfl : above = tree := hparent
          split
          · rename_i made hmade
            exact absurd hmade (hmake made)
          · split
            · rfl
            · exact settleDirectory_fst _
    · exact settleDirectory_fst _

/-- **Making a directory again** changes nothing, whether it could be made or not. -/
theorem makeDirectories_again (tree : FileTree) (path : Path) :
    ((tree.makeDirectories path).1.makeDirectories path).1 = (tree.makeDirectories path).1 := by
  fun_induction makeDirectories tree path with
  | case1 tree made hmade =>
    rw [makeDirectories_of_isDirectory (isDirectory_of_makeDirectory hmade)]
  | case2 tree cause hmake herrno hparts =>
    rw [makeDirectories, hmake]
    simp only [herrno, if_true, dif_pos hparts]
  | case3 tree cause hmake herrno hparts _ above failure habove ih =>
    -- the way to the path is still not there
    rw [habove] at ih
    refine makeDirectories_fst (fun made hmade => ?_) ih
    obtain ⟨location, hresolve, -⟩ := bind_eq_ok_iff.mp hmade
    exact not_isDirectory_of_makeDirectories habove (isDirectory_parent hresolve hparts)
  | case4 tree _ _ _ _ _ above _ made hmade =>
    rw [makeDirectories_of_isDirectory (isDirectory_of_makeDirectory hmade)]
  | case5 tree _ _ _ hparts _ above habove cause hmake herrno ih =>
    rw [habove] at ih
    refine makeDirectories_fst (fun made hmade => ?_) ih
    cases hmade.symm.trans hmake
  | case6 tree _ _ _ _ _ above habove cause hmake herrno ih =>
    rw [habove] at ih
    rw [settleDirectory_fst]
    refine makeDirectories_fst (fun made hmade => ?_) ih
    cases hmade.symm.trans hmake
  | case7 tree cause hmake herrno =>
    rw [settleDirectory_fst, makeDirectories, hmake]
    simp only [herrno, if_false, settleDirectory_fst]

/-! ### Fewer files -/

/-- **A file is taken away** just when the path leads to one. -/
theorem removeFile_eq_ok_iff : tree.removeFile path = .ok tree' ↔
    ∃ location, tree.resolve path = .ok location ∧ tree.HasFile location ∧
      tree' = tree.remove location := by
  rw [removeFile, bind_eq_ok_iff]
  refine exists_congr fun location => and_congr_right fun _ => ?_
  constructor
  · intro h
    split at h
    · cases h
    · cases h
    · rename_i octets hnode
      exact ⟨⟨octets, hnode⟩, (Except.ok.inj h).symm⟩
  · rintro ⟨⟨octets, hnode⟩, rfl⟩
    rw [hnode]

/-- A tree **thins** another one when some of its files are gone, and what lies below them. -/
structure Thins (tree tree' : FileTree) : Prop extends Supports tree tree' where
  node : ∀ location, tree'.node? location = tree.node? location ∨ tree'.node? location = none

theorem Thins.refl (tree : FileTree) : tree.Thins tree :=
  ⟨⟨rfl, fun _ _ => id⟩, fun _ => Or.inl rfl⟩

/-- A file taken away thins the tree. -/
theorem Thins.remove (h : tree.Thins tree') (hfile : tree.HasFile location) :
    tree.Thins (tree'.remove location) := by
  refine ⟨⟨h.cwd, fun other hheld hdirectory => ?_⟩, fun other => ?_⟩
  · by_cases hprefix : other <+: tree'.cwd
    · exact hasDirectory_of_above hprefix
    · -- a file is not above a held directory, and it is not one itself
      have hnot : ¬ location <+: other := by
        intro habove
        by_cases heq : location = other
        · exact hfile.not_hasDirectory (heq ▸ hdirectory)
        · exact hfile.not_hasDirectory (hheld location habove heq)
      rw [HasDirectory, node?_remove hprefix, if_neg hnot]
      exact h.directory other hheld hdirectory
  · by_cases hprefix : other <+: tree'.cwd
    · have hremoved : (tree'.remove location).HasDirectory other := hasDirectory_of_above hprefix
      rw [hremoved, ← show tree'.node? other = some .directory from hasDirectory_of_above hprefix]
      exact h.node other
    · rw [node?_remove hprefix]
      split
      · exact Or.inr rfl
      · exact h.node other

/-- No file comes where none was. -/
theorem Thins.hasFile (h : tree.Thins tree') (hfile : tree'.HasFile location) :
    tree.HasFile location := by
  obtain ⟨octets, hnode⟩ := hfile
  rcases h.node location with hsame | hnone
  · exact ⟨octets, hsame ▸ hnode⟩
  · rw [hnone] at hnode
    cases hnode

end ProviderRegistry.FileTree
