import Mathlib.Data.List.Infix
import ProviderRegistry.FileTree
import ProviderRegistry.Proofs.Computation

/-!
# What paths lead to

A path is followed through directories alone, so a location that a path leads to is **held** by a
directory (`held_of_resolve`), and a path that is one component longer than another leads to that
component of what the other leads to (`resolve_child`), unless the component is not a name of a
file to begin with (`Path.IsName`).

There is one reason for which it cannot be told what a path leads to: the path is **too long**
(`find?_eq_error_iff`). That depends on the tree, for a path that is followed to its end may be
long for its number of components or for one of them, and one that is given up before is not
(`tooLong_child`, `not_tooLong_child`); but a path that can be **asked for** never is
(`TooLong.not_askable`).
-/

namespace ProviderRegistry

namespace Path

variable {name : String}

theorem IsName.ne_empty (h : IsName name) : name ≠ "" := by
  rintro rfl
  exact absurd h.2.1 (by decide)

/-- A name alone is a path of one part. -/
theorem ofString_of_isName (h : IsName name) : ofString name = ⟨false, [name]⟩ := by
  obtain ⟨hslash, hcounts, -⟩ := h
  have hrelative : (name.toList.head? == some '/') = false := by
    rw [beq_eq_false_iff_ne]
    exact fun hhead => hslash (List.mem_of_head? hhead)
  rw [ofString, hrelative, Text.split_of_notMem hslash, List.map_singleton, String.ofList_toList,
    List.filter_cons_of_pos hcounts, List.filter_nil]

/-- A name below a path is one more part of it. -/
theorem child_of_isName (h : IsName name) (path : Path) :
    path.child name = ⟨path.absolute, path.parts ++ [name]⟩ := by
  rw [child, ofString_of_isName h, join, if_neg Bool.false_ne_true]

/-- A path can be **asked for** when neither the path nor one of its components is too long. -/
def Askable (path : Path) : Prop :=
  path.toString.utf8ByteSize ≤ FileTree.maxPathSize ∧
    ∀ part ∈ path.parts, part.utf8ByteSize ≤ FileTree.maxNameSize

instance (path : Path) : Decidable path.Askable := inferInstanceAs (Decidable (_ ∧ _))

/-- One more part makes no path shorter. -/
theorem size_intercalate_le (parts : List String) (part : String) :
    ("/".intercalate parts).utf8ByteSize ≤ ("/".intercalate (parts ++ [part])).utf8ByteSize := by
  cases parts with
  | nil => exact Nat.zero_le _
  | cons first parts =>
    rw [String.intercalate_append_of_ne_nil (List.cons_ne_nil first parts)
        (List.cons_ne_nil part []), String.utf8ByteSize_append, String.utf8ByteSize_append]
    omega

/-- A path is no shorter than the one that it continues. -/
theorem size_le_child (h : IsName name) (path : Path) :
    path.toString.utf8ByteSize ≤ (path.child name).toString.utf8ByteSize := by
  obtain ⟨absolute, parts⟩ := path
  rw [child_of_isName h]
  have hbody := size_intercalate_le parts name
  cases absolute with
  | true => simpa [toString, String.utf8ByteSize_append] using hbody
  | false =>
    cases parts with
    | cons part parts => simpa [toString] using hbody
    | nil =>
      -- the dot of the empty path gives way to a name that is not empty
      have hpos : 1 ≤ name.utf8ByteSize :=
        Nat.pos_of_ne_zero fun hzero => h.ne_empty (String.utf8ByteSize_eq_zero_iff.mp hzero)
      have hdot : ".".utf8ByteSize = 1 := rfl
      simpa [toString, String.intercalate_singleton, hdot] using hpos

/-- A path that is short enough is so without its last component. -/
theorem size_parent_le {path : Path} (h : path.toString.utf8ByteSize ≤ FileTree.maxPathSize) :
    path.parent.toString.utf8ByteSize ≤ FileTree.maxPathSize := by
  obtain ⟨absolute, parts⟩ := path
  rcases List.eq_nil_or_concat' parts with rfl | ⟨parts, part, rfl⟩
  · exact h
  · have hbody := size_intercalate_le parts part
    rw [parent, List.dropLast_concat]
    cases absolute with
    | true =>
      simp only [toString, if_true, String.utf8ByteSize_append] at h ⊢
      omega
    | false =>
      cases parts with
      | nil =>
        have hdot : (⟨false, []⟩ : Path).toString.utf8ByteSize ≤ FileTree.maxPathSize := by decide
        exact hdot
      | cons first parts =>
        simp only [toString, Bool.false_eq_true, if_false, List.isEmpty_cons,
          List.cons_append] at h ⊢
        exact hbody.trans h

end Path

namespace FileTree

variable {tree : FileTree} {location other : Location} {path : Path} {name : String}

/-! ### Nodes -/

/-- There is a file at a location. -/
def HasFile (tree : FileTree) (location : Location) : Prop :=
  ∃ octets, tree.node? location = some (.file octets)

/-- There is a directory at a location. -/
def HasDirectory (tree : FileTree) (location : Location) : Prop :=
  tree.node? location = some .directory

/-- No location holds both a file and a directory. -/
theorem HasFile.not_hasDirectory (h : tree.HasFile location) : ¬ tree.HasDirectory location := by
  obtain ⟨octets, hfile⟩ := h
  rw [HasDirectory, hfile]
  rintro ⟨⟩

/-- The working directory and what is above it are always there. -/
theorem hasDirectory_of_above (h : location <+: tree.cwd) : tree.HasDirectory location := by
  rw [HasDirectory, node?, if_pos (List.isPrefixOf_iff_prefix.mpr h)]

/-- What is no directory is not above the working directory. -/
theorem not_above_of_not_hasDirectory (h : ¬ tree.HasDirectory location) :
    ¬ location <+: tree.cwd :=
  mt hasDirectory_of_above h

/-- Away from the working directory the nodes are those that were put. -/
theorem node?_of_not_above (h : ¬ location <+: tree.cwd) :
    tree.node? location = (tree.nodes.find? fun entry => entry.1 == location).map (·.2) := by
  rw [node?, if_neg (by rwa [List.isPrefixOf_iff_prefix])]

theorem cwd_put (node : Node) : (tree.put location node).cwd = tree.cwd := by
  rw [put]
  split <;> rfl

/-- A node put at one location changes no other. -/
theorem node?_put_of_ne (h : other ≠ location) (node : Node) :
    (tree.put location node).node? other = tree.node? other := by
  by_cases hprefix : other <+: tree.cwd
  · rw [hasDirectory_of_above hprefix, hasDirectory_of_above (by rwa [cwd_put])]
  rw [node?_of_not_above hprefix, node?_of_not_above (by rwa [cwd_put]), put]
  have hne : (location == other) = false := by simpa using Ne.symm h
  split
  · have hcomp : (fun entry : Location × Node => entry.1 == other) ∘
        (fun entry : Location × Node => if entry.1 == location then (location, node) else entry) =
        fun entry => entry.1 == other := by
      funext entry
      by_cases hentry : entry.1 = location
      · simp [hentry]
      · simp [hentry]
    -- the node that is replaced in its place has another location
    rw [List.find?_map, hcomp, Option.map_map]
    cases hfind : tree.nodes.find? fun entry => entry.1 == other with
    | none => rfl
    | some entry =>
      have hentry : entry.1 = other := by simpa using List.find?_some hfind
      simp [hentry, h]
  · rw [List.find?_append, List.find?_singleton, hne]
    simp

/-- A node that was put is found, except above the working directory. -/
theorem node?_put_self (h : ¬ location <+: tree.cwd) (node : Node) :
    (tree.put location node).node? location = some node := by
  rw [node?_of_not_above (by rwa [cwd_put]), put]
  split
  · rename_i hany
    have hcomp : (fun entry : Location × Node => entry.1 == location) ∘
        (fun entry : Location × Node => if entry.1 == location then (location, node) else entry) =
        fun entry => entry.1 == location := by
      funext entry
      by_cases hentry : entry.1 = location <;> simp [hentry]
    rw [List.find?_map, hcomp]
    cases hfind : tree.nodes.find? fun entry => entry.1 == location with
    | none =>
      rw [List.find?_eq_none] at hfind
      obtain ⟨entry, hentry, hlocation⟩ := List.any_eq_true.mp hany
      exact absurd hlocation (hfind entry hentry)
    | some entry =>
      have hentry : entry.1 = location := by simpa using List.find?_some hfind
      simp [hentry]
  · rename_i hany
    have hfind : tree.nodes.find? (fun entry => entry.1 == location) = none := by
      rw [List.find?_eq_none]
      exact fun entry hentry hlocation => hany (List.any_eq_true.mpr ⟨entry, hentry, hlocation⟩)
    rw [List.find?_append, hfind]
    simp

/-- A removal takes a location with all that is below it, and nothing else. -/
theorem node?_remove (h : ¬ other <+: tree.cwd) :
    (tree.remove location).node? other =
      if location <+: other then none else tree.node? other := by
  have h' : ¬ other <+: (tree.remove location).cwd := h
  rw [node?_of_not_above h, node?_of_not_above h', remove, List.find?_filter]
  split
  · rename_i hprefix
    rw [Option.map_eq_none_iff, List.find?_eq_none]
    intro entry _ hentry
    simp only [Bool.not_eq_true', beq_iff_eq, decide_eq_true_eq] at hentry
    obtain ⟨hnot, rfl⟩ := hentry
    rw [List.isPrefixOf_iff_prefix.mpr hprefix] at hnot
    exact absurd hnot (by decide)
  · rename_i hprefix
    congr 2
    funext entry
    by_cases hentry : entry.1 = other
    · subst hentry
      have hnot : location.isPrefixOf entry.1 = false := by
        rwa [← Bool.not_eq_true, List.isPrefixOf_iff_prefix]
      simp [hnot]
    · simp [hentry]

/-- A removal brings nothing back. -/
theorem node?_remove_eq_none (h : tree.node? other = none) :
    (tree.remove location).node? other = none := by
  have hnot : ¬ other <+: tree.cwd := fun habove =>
    Option.some_ne_none _ ((hasDirectory_of_above habove).symm.trans h)
  rw [node?_remove hnot, h, ite_self]

/-- What was removed is gone. -/
theorem node?_remove_self (h : ¬ location <+: tree.cwd) :
    (tree.remove location).node? location = none := by
  rw [node?_remove h, if_pos (List.prefix_refl location)]

/-- A node is found among the names of the location above it, unless it is there without being
listed. -/
theorem mem_namesBelow_of_node? (hnot : ¬ (location ++ [name]) <+: tree.cwd) {node : Node}
    (hnode : tree.node? (location ++ [name]) = some node) : name ∈ tree.namesBelow location := by
  rw [node?_of_not_above hnot, Option.map_eq_some_iff] at hnode
  obtain ⟨entry, hfind, -⟩ := hnode
  have hentry : entry.1 = location ++ [name] := by simpa using List.find?_some hfind
  refine List.mem_filterMap.mpr ⟨entry, List.mem_of_find?_eq_some hfind, ?_⟩
  simp [hentry]

/-- There is a node for each of the names below a location. -/
theorem exists_node_of_mem_namesBelow (h : name ∈ tree.namesBelow location) :
    ∃ node, tree.node? (location ++ [name]) = some node := by
  obtain ⟨entry, hentry, hname⟩ := List.mem_filterMap.mp h
  have hlocation : entry.1 = location ++ [name] := by
    split at hname
    · rename_i hlast
      rw [← List.dropLast_append_getLast? name (Option.mem_def.mpr hname)]
      rw [eq_of_beq hlast]
    · cases hname
  by_cases habove : (location ++ [name]) <+: tree.cwd
  · exact ⟨.directory, hasDirectory_of_above habove⟩
  · rw [node?_of_not_above habove]
    cases hfind : tree.nodes.find? fun entry => entry.1 == location ++ [name] with
    | some found => exact ⟨found.2, rfl⟩
    | none => exact absurd (by simp [hlocation]) (List.find?_eq_none.mp hfind entry hentry)

/-! ### Following a path -/

/-- A location is **held** when everything above it is a directory. -/
def Held (tree : FileTree) (location : Location) : Prop :=
  ∀ above, above <+: location → above ≠ location → tree.HasDirectory above

/-- The root is held by directories. -/
theorem held_nil : tree.Held [] := fun _ h hne => absurd (List.prefix_nil.mp h) hne

/-- The working directory is held by directories. -/
theorem held_cwd : tree.Held tree.cwd := fun _ h _ => hasDirectory_of_above h

/-- A step up from a directory leads to what is held by directories. -/
theorem Held.dropLast (h : tree.Held location) (hdirectory : tree.HasDirectory location) :
    tree.Held location.dropLast := by
  intro above habove _
  by_cases heq : above = location
  · rwa [heq]
  · exact h above (habove.trans (List.dropLast_prefix location)) heq

/-- A step down from a directory leads to what is held by directories. -/
theorem Held.child (h : tree.Held location) (hdirectory : tree.HasDirectory location)
    (part : String) : tree.Held (location ++ [part]) := by
  intro above habove hne
  rcases List.prefix_concat_iff.mp habove with heq | hprefix
  · exact absurd heq hne
  · by_cases heq : above = location
    · rwa [heq]
    · exact h above hprefix heq

/-- One step from a directory: up for two dots, down for anything else of a fitting length. -/
theorem follow_cons (h : tree.HasDirectory location) (part : String) (parts : List String) :
    tree.follow location (part :: parts) =
      if part = ".." then tree.follow location.dropLast parts
      else if maxNameSize < part.utf8ByteSize then .error .nameTooLong
      else tree.follow (location ++ [part]) parts := by
  rw [follow, show tree.node? location = some .directory from h]

/-- There is no way on from what is not a directory. -/
theorem hasDirectory_of_follow_cons {part : String} {parts : List String} {found : Location}
    (h : tree.follow location (part :: parts) = .ok found) : tree.HasDirectory location := by
  rw [follow] at h
  split at h
  · cases h
  · cases h
  · assumption

/-- A path can be followed in two stretches. -/
theorem follow_append (parts more : List String) :
    tree.follow location (parts ++ more) =
      (tree.follow location parts).bind fun found => tree.follow found more := by
  induction parts generalizing location with
  | nil => rfl
  | cons part parts ih =>
    rw [List.cons_append, follow, follow]
    split
    · rfl
    · rfl
    · split
      · exact ih
      · split
        · rfl
        · exact ih

/-- What a held location leads to is held. -/
theorem Held.follow (h : tree.Held location) {parts : List String} {found : Location}
    (hfollow : tree.follow location parts = .ok found) : tree.Held found := by
  induction parts generalizing location with
  | nil => exact Except.ok.inj hfollow ▸ h
  | cons part parts ih =>
    have hdirectory := hasDirectory_of_follow_cons hfollow
    rw [follow_cons hdirectory] at hfollow
    split at hfollow
    · exact ih (h.dropLast hdirectory) hfollow
    · split at hfollow
      · cases hfollow
      · exact ih (h.child hdirectory part) hfollow

/-- What lies one component further lies below a directory. -/
theorem follow_concat {parts : List String} {found : Location} (hname : Path.IsName name)
    (h : tree.follow location (parts ++ [name]) = .ok found) :
    ∃ above, tree.follow location parts = .ok above ∧ tree.HasDirectory above ∧
      found = above ++ [name] := by
  rw [follow_append] at h
  cases hparts : tree.follow location parts with
  | error errno =>
    rw [hparts] at h
    cases h
  | ok above =>
    rw [hparts] at h
    change tree.follow above [name] = .ok found at h
    have hdirectory := hasDirectory_of_follow_cons h
    rw [follow_cons hdirectory, if_neg hname.2.2] at h
    split at h
    · cases h
    · exact ⟨above, rfl, hdirectory, (Except.ok.inj h).symm⟩

/-- A path that is not too long leads to where its parts do, from the root or the working
directory. -/
theorem resolve_eq_ok_iff :
    tree.resolve path = .ok location ↔ path.toString.utf8ByteSize ≤ maxPathSize ∧
      tree.follow (if path.absolute then [] else tree.cwd) path.parts = .ok location := by
  rw [resolve]
  split
  · rename_i hlong
    exact iff_of_false (by rintro ⟨⟩) fun h => absurd h.1 (Nat.not_le.mpr hlong)
  · rename_i hshort
    rw [and_iff_right (Nat.not_lt.mp hshort)]
    cases tree.follow (if path.absolute then [] else tree.cwd) path.parts with
    | ok found => simp [Except.mapError]
    | error errno => simp [Except.mapError]

/-- A path leads through directories alone. -/
theorem held_of_resolve (h : tree.resolve path = .ok location) : tree.Held location := by
  refine Held.follow ?_ (resolve_eq_ok_iff.mp h).2
  split
  · exact held_nil
  · exact held_cwd

/-- **One component further** than a path lies a child of what the path leads to. -/
theorem resolve_child (hname : Path.IsName name)
    (h : tree.resolve (path.child name) = .ok location) :
    ∃ above, tree.resolve path = .ok above ∧ tree.HasDirectory above ∧
      location = above ++ [name] := by
  obtain ⟨hsize, hfollow⟩ := resolve_eq_ok_iff.mp h
  rw [Path.child_of_isName hname] at hfollow
  obtain ⟨above, habove, hdirectory, hlocation⟩ := follow_concat hname hfollow
  exact ⟨above, resolve_eq_ok_iff.mpr ⟨(Path.size_le_child hname path).trans hsize, habove⟩,
    hdirectory, hlocation⟩

/-- A path that can be asked for leads to every name below a directory that it leads through. -/
theorem resolve_child_of_size (hname : Path.IsName name) (h : tree.resolve path = .ok location)
    (hdirectory : tree.HasDirectory location) (hsize : name.utf8ByteSize ≤ maxNameSize)
    (hpathSize : (path.child name).toString.utf8ByteSize ≤ maxPathSize) :
    tree.resolve (path.child name) = .ok (location ++ [name]) := by
  have hfollow := (resolve_eq_ok_iff.mp h).2
  refine resolve_eq_ok_iff.mpr ⟨hpathSize, ?_⟩
  rw [Path.child_of_isName hname, follow_append, hfollow]
  change tree.follow location [name] = _
  rw [follow_cons hdirectory, if_neg hname.2.2, if_neg (Nat.not_lt.mpr hsize), follow]

/-! ### What a path leads to -/

/-- What a path finds is the node that it leads to, if there is one. -/
theorem find_of_resolve (h : tree.resolve path = .ok location) :
    tree.find path = match tree.node? location with
      | some node => .ok node
      | none => .error ⟨.noEntry, path⟩ :=
  bind_of_eq_ok h

theorem find_eq_ok_iff {node : Node} :
    tree.find path = .ok node ↔
      ∃ location, tree.resolve path = .ok location ∧ tree.node? location = some node := by
  rw [find, bind_eq_ok_iff]
  refine exists_congr fun location => and_congr_right fun _ => ?_
  cases tree.node? location with
  | some found => simp
  | none => simp

/-- A path is said to be a directory just when it leads to one. -/
theorem isDirectory_eq_ok_true_iff :
    tree.isDirectory path = .ok true ↔ ∃ location, tree.resolve path = .ok location ∧
      tree.HasDirectory location := by
  have hfind : tree.isDirectory path = .ok true ↔ tree.find path = .ok .directory := by
    rw [isDirectory, find?]
    cases tree.find path with
    | ok node => cases node <;> simp [Except.map]
    | error failure =>
      simp only
      split <;> simp [Except.map]
  rw [hfind, find_eq_ok_iff]
  rfl

theorem isDirectory_of_resolve (h : tree.resolve path = .ok location)
    (hdirectory : tree.HasDirectory location) : tree.isDirectory path = .ok true :=
  isDirectory_eq_ok_true_iff.mpr ⟨location, h, hdirectory⟩

/-- A path is said to be a file just when it leads to one. -/
theorem isFile_eq_ok_true_iff :
    tree.isFile path = .ok true ↔ ∃ location, tree.resolve path = .ok location ∧
      tree.HasFile location := by
  have hfind : tree.isFile path = .ok true ↔ ∃ octets, tree.find path = .ok (.file octets) := by
    rw [isFile, find?]
    cases tree.find path with
    | ok node => cases node <;> simp [Except.map]
    | error failure =>
      simp only
      split <;> simp [Except.map]
  rw [hfind]
  constructor
  · rintro ⟨octets, hoctets⟩
    obtain ⟨location, hlocation, hnode⟩ := find_eq_ok_iff.mp hoctets
    exact ⟨location, hlocation, octets, hnode⟩
  · rintro ⟨location, hlocation, octets, hnode⟩
    exact ⟨octets, find_eq_ok_iff.mpr ⟨location, hlocation, hnode⟩⟩

/-- A path that leads somewhere can be asked about. -/
theorem exists_isFile_of_resolve (h : tree.resolve path = .ok location) :
    ∃ isFile, tree.isFile path = .ok isFile := by
  rw [isFile, find?, find_of_resolve h]
  cases tree.node? location with
  | some node => exact ⟨_, rfl⟩
  | none => exact ⟨_, rfl⟩

/-- A path that leads nowhere leads to no file. -/
theorem isFile_of_node?_eq_none (h : tree.resolve path = .ok location)
    (hnode : tree.node? location = none) : tree.isFile path = .ok false := by
  have hfind : tree.find path = .error ⟨.noEntry, path⟩ := by rw [find_of_resolve h, hnode]
  rw [isFile, find?, hfind]
  rfl

/-! ### Paths that are too long -/

/-- There is no way on along some components: something is missing, or no directory, or one of the
components is longer than a name can be. -/
theorem follow_eq_error {parts : List String} {errno : Errno}
    (h : tree.follow location parts = .error errno) :
    errno = .noEntry ∨ errno = .notDirectory ∨
      (errno = .nameTooLong ∧ ∃ part ∈ parts, maxNameSize < part.utf8ByteSize) := by
  induction parts generalizing location with
  | nil => cases h
  | cons part parts ih =>
    have hlater : ∀ next, tree.follow next parts = .error errno → errno = .noEntry ∨
        errno = .notDirectory ∨
          (errno = .nameTooLong ∧ ∃ other ∈ part :: parts, maxNameSize < other.utf8ByteSize) := by
      intro next hnext
      rcases ih hnext with hnone | hfile | ⟨hlong, other, hother, hsize⟩
      · exact Or.inl hnone
      · exact Or.inr (Or.inl hfile)
      · exact Or.inr (Or.inr ⟨hlong, other, List.mem_cons_of_mem part hother, hsize⟩)
    rw [follow] at h
    split at h
    · exact Or.inl (Except.error.inj h).symm
    · exact Or.inr (Or.inl (Except.error.inj h).symm)
    · split at h
      · exact hlater _ h
      · split at h
        · rename_i hsize
          exact Or.inr (Or.inr
            ⟨(Except.error.inj h).symm, part, List.mem_cons_self, hsize⟩)
        · exact hlater _ h

/-- A path leads nowhere for one of three reasons, and the length is one only if the path cannot be
asked about. -/
theorem resolve_eq_error {failure : OsFailure} (h : tree.resolve path = .error failure) :
    failure.path = path ∧ (failure.errno = .noEntry ∨ failure.errno = .notDirectory ∨
      (failure.errno = .nameTooLong ∧ ¬ path.Askable)) := by
  rw [resolve] at h
  split at h
  · rename_i hsize
    obtain rfl := Except.error.inj h
    exact ⟨rfl, Or.inr (Or.inr ⟨rfl, fun hask => absurd hask.1 (Nat.not_le.mpr hsize)⟩)⟩
  · cases hfollow : tree.follow (if path.absolute then [] else tree.cwd) path.parts with
    | ok found =>
      rw [hfollow] at h
      cases h
    | error errno =>
      rw [hfollow] at h
      obtain rfl := Except.error.inj h
      rcases follow_eq_error hfollow with hnone | hfile | ⟨hlong, part, hpart, hsize⟩
      · exact ⟨rfl, Or.inl hnone⟩
      · exact ⟨rfl, Or.inr (Or.inl hfile)⟩
      · exact ⟨rfl, Or.inr (Or.inr
          ⟨hlong, fun hask => absurd (hask.2 part hpart) (Nat.not_le.mpr hsize)⟩)⟩

/-- A path is **too long** for a tree when for that reason alone it leads nowhere. -/
def TooLong (tree : FileTree) (path : Path) : Prop :=
  tree.resolve path = .error ⟨.nameTooLong, path⟩

/-- A path that is too long cannot be asked about. -/
theorem TooLong.not_askable (h : tree.TooLong path) : ¬ path.Askable := by
  obtain ⟨-, hnone | hfile | ⟨-, hask⟩⟩ := resolve_eq_error h
  · cases hnone
  · cases hfile
  · exact hask

/-- A path is too long below a directory when its last component is longer than a name can be. -/
theorem tooLong_child (hname : Path.IsName name) (h : tree.resolve path = .ok location)
    (hdirectory : tree.HasDirectory location) (hsize : maxNameSize < name.utf8ByteSize) :
    tree.TooLong (path.child name) := by
  have hfollow := (resolve_eq_ok_iff.mp h).2
  rw [TooLong, resolve]
  split
  · rfl
  · rw [Path.child_of_isName hname, follow_append, hfollow]
    change Except.mapError _ (tree.follow location [name]) = _
    rw [follow_cons hdirectory, if_neg hname.2.2, if_pos hsize]
    rfl

/-- What lies below a path is too long only if the path is, or for a reason of its own. -/
theorem not_tooLong_child (hname : Path.IsName name) (h : ¬ tree.TooLong path)
    (hsize : name.utf8ByteSize ≤ maxNameSize)
    (hpathSize : (path.child name).toString.utf8ByteSize ≤ maxPathSize) :
    ¬ tree.TooLong (path.child name) := by
  have hshort : path.toString.utf8ByteSize ≤ maxPathSize :=
    (Path.size_le_child hname path).trans hpathSize
  intro hlong
  rw [TooLong, resolve, if_neg (Nat.not_lt.mpr hpathSize), Path.child_of_isName hname,
    follow_append] at hlong
  rw [TooLong, resolve, if_neg (Nat.not_lt.mpr hshort)] at h
  cases hfollow : tree.follow (if path.absolute then [] else tree.cwd) path.parts with
  | error errno =>
    rw [hfollow] at h hlong
    refine h ?_
    obtain ⟨rfl, -⟩ := OsFailure.mk.inj (Except.error.inj hlong)
    rfl
  | ok above =>
    rw [hfollow] at hlong
    change Except.mapError _ (tree.follow above [name]) = _ at hlong
    rw [follow] at hlong
    split at hlong
    · cases hlong
    · cases hlong
    · rw [if_neg hname.2.2, if_neg (Nat.not_lt.mpr hsize), follow] at hlong
      cases hlong

/-- To ask what a path leads to fails just when the path is too long. -/
theorem find?_eq_error_iff {failure : OsFailure} :
    tree.find? path = .error failure ↔ failure = ⟨.nameTooLong, path⟩ ∧ tree.TooLong path := by
  rw [find?, TooLong]
  cases hresolve : tree.resolve path with
  | ok location =>
    rw [find_of_resolve hresolve]
    cases tree.node? location <;> simp
  | error other =>
    have hfind : tree.find path = .error other := by
      rw [find, hresolve]
      rfl
    obtain ⟨errno, named⟩ := other
    obtain ⟨rfl, herrno⟩ := resolve_eq_error hresolve
    rw [hfind]
    rcases herrno with rfl | rfl | ⟨rfl, -⟩
    · simp
    · simp
    · simp [eq_comm]

/-- Asking for a file fails just when the path is too long. -/
theorem isFile_eq_error_iff {failure : OsFailure} :
    tree.isFile path = .error failure ↔ failure = ⟨.nameTooLong, path⟩ ∧ tree.TooLong path := by
  rw [isFile, ← find?_eq_error_iff]
  cases tree.find? path <;> simp [Except.map]

/-- Asking for a directory fails just when the path is too long. -/
theorem isDirectory_eq_error_iff {failure : OsFailure} :
    tree.isDirectory path = .error failure ↔
      failure = ⟨.nameTooLong, path⟩ ∧ tree.TooLong path := by
  rw [isDirectory, ← find?_eq_error_iff]
  cases tree.find? path <;> simp [Except.map]

/-! ### Reading -/

/-- A text without carriage returns is read as it stands in the file. -/
theorem readText_of_node? {text : String} (h : tree.resolve path = .ok location)
    (hnode : tree.node? location = some (.file text.toUTF8)) (hplain : '\r' ∉ text.toList) :
    tree.readText path = .ok text := by
  have hfind : tree.find path = .ok (.file text.toUTF8) := find_eq_ok_iff.mpr ⟨location, h, hnode⟩
  have hoctets : tree.readOctets path = .ok text.toUTF8 := by rw [readOctets, bind_of_eq_ok hfind]
  rw [readText, readTextBy, hoctets]
  simp only [Text.Utf8.decode_toUTF8, Text.unifyNewlines_of_notMem hplain, String.ofList_toList]

end FileTree

end ProviderRegistry
