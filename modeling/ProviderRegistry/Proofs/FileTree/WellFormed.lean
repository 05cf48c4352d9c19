import ProviderRegistry.Proofs.FileTree

/-!
# Trees as a file system has them

A tree is any list of nodes here. It is **well formed** when, as in a file system, whatever there
is has a name that a file can have and lies in a directory. From a path that leads above it a node
is then reached by its names alone, unless the path gets too long (`WellFormed.resolve_below`).

The order of the nodes is the order in which directories are listed. Two trees that differ in
nothing else have the **same nodes**, and paths lead to the same in both (`SameNodes.resolve`).
-/

namespace ProviderRegistry

namespace Path

/-- The path that some names lead on to from another one. -/
def below (p : Path) (names : List String) : Path := p.join ⟨false, names⟩

variable {p : Path} {name : String} {names : List String}

/-- A path below another goes on with the names, as it is written. -/
theorem below_eq (p : Path) (names : List String) :
    p.below names = ⟨p.absolute, p.parts ++ names⟩ :=
  rfl

theorem below_nil (p : Path) : p.below [] = p := by rw [below_eq, List.append_nil]

theorem below_entry (p : Path) (name : String) (names : List String) :
    (p.entry name).below names = p.below (name :: names) := by
  rw [below_eq, below_eq, parts_entry, List.append_assoc, List.singleton_append]
  rfl

/-- Different names lead to different paths. -/
theorem below_injective (p : Path) : Function.Injective p.below := by
  intro names names' h
  exact List.append_cancel_left (congrArg Path.parts h)

end Path

namespace FileTree

variable {tree tree' : FileTree} {location : Location} {path : Path} {name : String} {node : Node}
  {names : List String}

/-! ### Listing a directory -/

/-- Without its repetitions a list names each member once. -/
theorem nodup_eraseDups {α : Type} [BEq α] [LawfulBEq α] : (xs : List α) → xs.eraseDups.Nodup
  | [] => List.nodup_nil
  | x :: xs => by
    rw [List.eraseDups_cons, List.nodup_cons, List.mem_eraseDups, List.mem_filter]
    exact ⟨by simp, nodup_eraseDups _⟩
  termination_by xs => xs.length
  decreasing_by exact Nat.lt_succ_of_le (List.length_filter_le _ xs)

/-- A name leads towards the working directory just when the location with it still does. -/
theorem nameTowardsCwd?_eq_some_iff :
    tree.nameTowardsCwd? location = some name ↔ location ++ [name] <+: tree.cwd := by
  rw [nameTowardsCwd?]
  constructor
  · intro h
    split at h
    · rename_i habove
      obtain ⟨rest, hrest⟩ := List.isPrefixOf_iff_prefix.mp habove
      rw [← hrest, List.drop_left] at h
      obtain ⟨more, rfl⟩ := List.head?_eq_some_iff.mp h
      exact ⟨more, by rw [← hrest, List.append_assoc, List.singleton_append]⟩
    · cases h
  · rintro ⟨more, hmore⟩
    have hcwd : tree.cwd = location ++ name :: more := by
      rw [← hmore, List.append_assoc, List.singleton_append]
    rw [hcwd, if_pos (List.isPrefixOf_iff_prefix.mpr (List.prefix_append location _)),
      List.drop_left, List.head?_cons]

/-- **A directory lists** the nodes in it that have a name. -/
theorem mem_namesIn_iff :
    name ∈ tree.namesIn location ↔
      Path.IsName name ∧ ∃ node, tree.node? (location ++ [name]) = some node := by
  rw [namesIn, List.mem_filter, decide_eq_true_eq, and_comm, List.mem_eraseDups, List.mem_append,
    Option.mem_toList, nameTowardsCwd?_eq_some_iff]
  refine and_congr_right fun _ => ?_
  constructor
  · rintro (hbelow | habove)
    · exact exists_node_of_mem_namesBelow hbelow
    · exact ⟨.directory, hasDirectory_of_above habove⟩
  · rintro ⟨node, hnode⟩
    by_cases habove : location ++ [name] <+: tree.cwd
    · exact Or.inr habove
    · exact Or.inl (mem_namesBelow_of_node? habove hnode)

/-- A directory lists nothing twice. -/
theorem nodup_namesIn (tree : FileTree) (location : Location) : (tree.namesIn location).Nodup :=
  (nodup_eraseDups _).filter _

/-- The test for a directory answers as the tree is. -/
theorem isDirectoryAt_iff : tree.isDirectoryAt location = true ↔ tree.HasDirectory location := by
  rw [isDirectoryAt, HasDirectory]
  split
  · rename_i h
    exact iff_of_true rfl h
  · rename_i h
    exact iff_of_false Bool.false_ne_true h

/-! ### Paths that are not too long -/

/-- A path that leads somewhere is not too long. -/
theorem not_tooLong_of_resolve (h : tree.resolve path = .ok location) : ¬ tree.TooLong path := by
  rw [TooLong, h]
  rintro ⟨⟩

/-- A path that can be asked about is not too long. -/
theorem not_tooLong_of_isFile {isFile : Bool} (h : tree.isFile path = .ok isFile) :
    ¬ tree.TooLong path := by
  intro hlong
  cases h.symm.trans (isFile_eq_error_iff.mpr ⟨rfl, hlong⟩)

/-! ### Well-formed trees -/

/-- A tree is **well formed** when whatever there is has the name of a file, which is not longer
than a directory can hold, and lies in a directory. -/
structure WellFormed (tree : FileTree) : Prop where
  isName {location : Location} {name : String} {node : Node}
    (h : tree.node? (location ++ [name]) = some node) : Path.IsName name
  size {location : Location} {name : String} {node : Node}
    (h : tree.node? (location ++ [name]) = some node) : name.utf8ByteSize ≤ maxNameSize
  hasDirectory {location : Location} {name : String} {node : Node}
    (h : tree.node? (location ++ [name]) = some node) : tree.HasDirectory location

/-- A name that a directory can hold. -/
def IsEntryName (name : String) : Prop := Path.IsName name ∧ name.utf8ByteSize ≤ maxNameSize

instance (name : String) : Decidable (IsEntryName name) := inferInstanceAs (Decidable (_ ∧ _))

/-- Trees are well formed by what they list. -/
theorem wellFormed_of_nodes (hcwd : ∀ name ∈ tree.cwd, IsEntryName name)
    (hnodes : ∀ entry ∈ tree.nodes, ∀ name ∈ entry.1.getLast?,
      IsEntryName name ∧ tree.isDirectoryAt entry.1.dropLast = true) : tree.WellFormed := by
  have hnode {location : Location} {name : String} {node : Node}
      (h : tree.node? (location ++ [name]) = some node) :
      IsEntryName name ∧ tree.HasDirectory location := by
    by_cases habove : location ++ [name] <+: tree.cwd
    · exact ⟨hcwd name (habove.subset (List.mem_concat_self)),
        hasDirectory_of_above ((List.prefix_append location [name]).trans habove)⟩
    · rw [node?_of_not_above habove, Option.map_eq_some_iff] at h
      obtain ⟨entry, hfind, -⟩ := h
      have hentry : entry.1 = location ++ [name] := by simpa using List.find?_some hfind
      have hlisted := hnodes entry (List.mem_of_find?_eq_some hfind) name (by simp [hentry])
      rw [hentry, List.dropLast_concat, isDirectoryAt_iff] at hlisted
      exact hlisted
  exact ⟨fun h => (hnode h).1.1, fun h => (hnode h).1.2, fun h => (hnode h).2⟩

/-- In a well-formed tree a directory lists all nodes in it. -/
theorem WellFormed.mem_namesIn_iff (h : tree.WellFormed) :
    name ∈ tree.namesIn location ↔ ∃ node, tree.node? (location ++ [name]) = some node := by
  rw [FileTree.mem_namesIn_iff]
  exact and_iff_right_of_imp fun ⟨_, hnode⟩ => h.isName hnode

/-- Whatever there is has directories above it. -/
theorem WellFormed.held (h : tree.WellFormed) (hnode : tree.node? location = some node) :
    tree.Held location := by
  induction location using List.reverseRecOn generalizing node with
  | nil => exact held_nil
  | append_singleton location name ih =>
    have hdirectory := h.hasDirectory hnode
    exact (ih hdirectory).child hdirectory name

/-- In a well-formed tree the names of a node lead to it: all that stands above it is a
directory. -/
theorem WellFormed.follow_below (h : tree.WellFormed)
    (hnode : tree.node? (location ++ names) = some node) :
    tree.follow location names = .ok (location ++ names) := by
  induction names generalizing location with
  | nil => rw [follow, List.append_nil]
  | cons name names ih =>
    -- the node at the end is held, so every step on the way leads into a directory
    have hheld := h.held hnode
    have hdirectory : tree.HasDirectory location :=
      hheld location (List.prefix_append location _) (by simp)
    rw [List.append_cons] at hnode
    obtain ⟨entry, hentry⟩ : ∃ entry, tree.node? (location ++ [name]) = some entry := by
      cases names with
      | nil => exact ⟨node, by simpa using hnode⟩
      | cons next names =>
        exact ⟨.directory, h.held hnode _ (List.prefix_append _ _) (by simp)⟩
    rw [follow_cons hdirectory, if_neg (h.isName hentry).2.2,
      if_neg (Nat.not_lt.mpr (h.size hentry)), ih hnode, ← List.append_cons]

/-- **A node is reached by its names** from a path that leads above it, unless the path gets too
long. -/
theorem WellFormed.resolve_below (h : tree.WellFormed) (hpath : tree.resolve path = .ok location)
    (hnode : tree.node? (location ++ names) = some node) :
    tree.resolve (path.below names) =
      if maxPathSize < (path.below names).toString.utf8ByteSize then
        .error ⟨.nameTooLong, path.below names⟩
      else .ok (location ++ names) := by
  have hfollow : tree.follow (if (path.below names).absolute then [] else tree.cwd)
      (path.below names).parts = .ok (location ++ names) := by
    rw [Path.below_eq, follow_append, (resolve_eq_ok_iff.mp hpath).2]
    exact h.follow_below hnode
  rw [resolve]
  split
  · rfl
  · rw [hfollow]
    rfl

/-- The path to a node is too long when it has too many octets. -/
theorem WellFormed.tooLong_below_iff (h : tree.WellFormed)
    (hpath : tree.resolve path = .ok location)
    (hnode : tree.node? (location ++ names) = some node) :
    tree.TooLong (path.below names) ↔ maxPathSize < (path.below names).toString.utf8ByteSize := by
  rw [TooLong, h.resolve_below hpath hnode]
  split
  · rename_i hlong
    exact iff_of_true rfl hlong
  · rename_i hshort
    exact iff_of_false (by rintro ⟨⟩) hshort

/-- In a well-formed tree the path of a node resolves to it, if the system takes a path of that
length. -/
theorem WellFormed.resolve_of_not_tooLong (h : tree.WellFormed)
    (hpath : tree.resolve path = .ok location)
    (hnode : tree.node? (location ++ names) = some node)
    (hshort : ¬ tree.TooLong (path.below names)) :
    tree.resolve (path.below names) = .ok (location ++ names) := by
  rw [h.resolve_below hpath hnode, if_neg (by rwa [← h.tooLong_below_iff hpath hnode])]

/-! ### The order of listing -/

/-- Two trees have the **same nodes** when they differ in the order of listing alone. -/
structure SameNodes (tree tree' : FileTree) : Prop where
  cwd : tree.cwd = tree'.cwd
  node? (location : Location) : tree.node? location = tree'.node? location

/-- Trees with the same nodes are walked alike. -/
theorem SameNodes.follow (h : tree.SameNodes tree') (location : Location) (parts : List String) :
    tree.follow location parts = tree'.follow location parts := by
  induction parts generalizing location with
  | nil => rfl
  | cons part parts ih => rw [FileTree.follow, FileTree.follow, h.node?, ih, ih]

/-- A path leads to the same place in trees with the same nodes. -/
theorem SameNodes.resolve (h : tree.SameNodes tree') (path : Path) :
    tree.resolve path = tree'.resolve path := by
  rw [FileTree.resolve, FileTree.resolve, h.cwd, h.follow]

theorem SameNodes.hasDirectory_iff (h : tree.SameNodes tree') :
    tree.HasDirectory location ↔ tree'.HasDirectory location := by
  rw [HasDirectory, HasDirectory, h.node?]

theorem SameNodes.hasFile_iff (h : tree.SameNodes tree') :
    tree.HasFile location ↔ tree'.HasFile location := by
  rw [HasFile, HasFile, h.node?]

theorem SameNodes.tooLong_iff (h : tree.SameNodes tree') :
    tree.TooLong path ↔ tree'.TooLong path := by
  rw [TooLong, TooLong, h.resolve]

/-- A tree with the nodes of a well-formed one is well formed: the order of its nodes does not
count. -/
theorem SameNodes.wellFormed (h : tree.SameNodes tree') (hwell : tree.WellFormed) :
    tree'.WellFormed where
  isName hnode := hwell.isName (by rwa [h.node?])
  size hnode := hwell.size (by rwa [h.node?])
  hasDirectory hnode := h.hasDirectory_iff.mp (hwell.hasDirectory (by rwa [h.node?]))

end FileTree

end ProviderRegistry
