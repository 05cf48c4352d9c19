import ProviderRegistry.Options
import ProviderRegistry.Proofs.FileTree

/-!
# Where paths lie by their components

There are no links in a tree, so where a path leads to can be told from its components alone: it
goes on for each name and back for each double dot (`walk`). This is where the path **lies**, and
it leads nowhere else (`lexical_of_resolve`).

Components come down to a number of steps out of where one starts and the names that follow
(`walk_eq`). From this it can be told whether they stay below a location (`prefix_walk_iff`), and
whether they stay below every location (`forall_prefix_walk_iff`).

The components of a directory that an option names are those of the text, with slashes and
backslashes alike between them (`ofString_normalDirectory`).
-/

namespace ProviderRegistry

variable {location : Location} {parts : List String} {part : String}

/-! ### Walking -/

/-- The location that some components lead to from another one by themselves: a name leads into it,
and a double dot out of it, unless it is the root. -/
def walk (location : Location) (parts : List String) : Location :=
  parts.foldl (fun location part =>
    if part = ".." then location.dropLast else location ++ [part]) location

/-- A walk can be taken in two stretches. -/
theorem walk_append (location : Location) (parts more : List String) :
    walk location (parts ++ more) = walk (walk location parts) more :=
  List.foldl_append

/-- The last step of a walk goes up for two dots, and down for anything else. -/
theorem walk_concat (location : Location) (parts : List String) (part : String) :
    walk location (parts ++ [part]) =
      if part = ".." then (walk location parts).dropLast else walk location parts ++ [part] :=
  walk_append location parts [part]

/-- What some components come down to: how many steps they lead out of where they start, and the
names that follow then. -/
def net (parts : List String) : ℕ × List String :=
  parts.foldl (fun net part =>
    if part = ".." then if net.2 = [] then (net.1 + 1, []) else (net.1, net.2.dropLast)
    else (net.1, net.2 ++ [part])) (0, [])

/-- Two dots take back the last name that is left, or climb once more if there is none. -/
theorem net_concat (parts : List String) (part : String) :
    net (parts ++ [part]) =
      if part = ".." then
        if (net parts).2 = [] then ((net parts).1 + 1, [])
        else ((net parts).1, (net parts).2.dropLast)
      else ((net parts).1, (net parts).2 ++ [part]) :=
  List.foldl_append

/-- **A walk** gives up as many names of where it starts as it leads out of it, and puts the names
that follow in their place. -/
theorem walk_eq (location : Location) (parts : List String) :
    walk location parts = location.take (location.length - (net parts).1) ++ (net parts).2 := by
  induction parts using List.reverseRecOn with
  | nil => simp [walk, net]
  | append_singleton parts part ih =>
    rw [walk_concat, net_concat, ih]
    split
    · split
      -- no name is left to give up, so one more is given up of the location
      · rename_i hdown
        rw [hdown, List.append_nil, List.append_nil, List.dropLast_eq_take, List.take_take,
          List.length_take]
        congr 1
        omega
      · rename_i hdown
        rw [List.dropLast_append_of_ne_nil hdown]
    · rw [List.append_assoc]

/-- **A walk stays below** where it starts just when the names that it gives up are the first ones
that it goes on with. -/
theorem prefix_walk_iff : location <+: walk location parts ↔
    location.drop (location.length - (net parts).1) <+: (net parts).2 := by
  rw [walk_eq]
  nth_rewrite 1 [← List.take_append_drop (location.length - (net parts).1) location]
  exact List.prefix_append_right_inj _

/-! ### Paths -/

namespace Path

/-- The location where a path **lies**, seen from the one that relative paths start from. -/
def lexical (cwd : Location) (path : Path) : Location :=
  walk (if path.absolute then [] else cwd) path.parts

/-- What lies one name further. -/
theorem lexical_child {cwd : Location} {name : String} (h : IsName name) (path : Path) :
    (path.child name).lexical cwd = path.lexical cwd ++ [name] := by
  rw [child_of_isName h, lexical, walk_concat, if_neg h.2.2]
  rfl

/-- **A walk stays below** every path that it may start from just when it leads no step out. -/
theorem forall_prefix_walk_iff {cwd : Location} :
    (∀ root : Path, root.lexical cwd <+: walk (root.lexical cwd) parts) ↔ (net parts).1 = 0 := by
  constructor
  · intro h
    by_contra hup
    -- a name that is not the one that the walk goes on with
    let fresh := (net parts).2.headD "" ++ "x"
    have hfresh : fresh ≠ ".." := by
      intro hdots
      have hlast := congrArg (fun s => s.toList.getLast?) hdots
      simp [fresh] at hlast
    have hstart : Path.lexical cwd ⟨true, [fresh]⟩ = [fresh] := by
      simp [lexical, walk, hfresh]
    have hout := h ⟨true, [fresh]⟩
    rw [hstart, prefix_walk_iff, List.length_singleton,
      Nat.sub_eq_zero_of_le (Nat.one_le_iff_ne_zero.mpr hup), List.drop_zero] at hout
    obtain ⟨rest, hrest⟩ := hout
    have hhead : (net parts).2.headD "" = fresh := by rw [← hrest]; rfl
    have hlength := congrArg String.length hhead
    simp [fresh] at hlength
  · intro hup root
    rw [prefix_walk_iff, hup, Nat.sub_zero, List.drop_length]
    exact List.nil_prefix

end Path

namespace FileTree

variable {tree : FileTree} {path : Path} {found : Location}

/-- Where a path can be followed, it leads where it says. -/
theorem walk_of_follow (h : tree.follow location parts = .ok found) :
    found = walk location parts := by
  induction parts generalizing location with
  | nil => exact (Except.ok.inj h).symm
  | cons part parts ih =>
    rw [follow_cons (hasDirectory_of_follow_cons h)] at h
    rw [walk, List.foldl_cons]
    split at h
    · rename_i hup
      rw [if_pos hup]
      exact ih h
    · rename_i hname
      split at h
      · cases h
      · rw [if_neg hname]
        exact ih h

/-- **A path leads** to where it lies, if it leads anywhere. -/
theorem lexical_of_resolve (h : tree.resolve path = .ok found) : found = path.lexical tree.cwd :=
  walk_of_follow (resolve_eq_ok_iff.mp h).2

end FileTree

/-! ### The directory that an option names -/

/-- The components that count between the slashes of a text. -/
def countedParts (cs : List Char) : List String :=
  ((Text.split '/' cs).map String.ofList).filter Path.counts

/-- The components of a text, with slashes and backslashes alike between them. -/
def slashedParts (text : String) : List String :=
  countedParts (text.toList.map fun c => if c = '\\' then '/' else c)

/-- A slash at the end adds no part. -/
theorem countedParts_concat_slash (cs : List Char) :
    countedParts (cs ++ ['/']) = countedParts cs := by
  have hempty : ([[]].map String.ofList).filter Path.counts = [] := by decide
  rw [countedParts, countedParts, Text.split_append_sep, List.map_append, List.filter_append,
    Text.split, hempty, List.append_nil]

/-- Slashes in front add no part. -/
theorem countedParts_dropWhile_slash (cs : List Char) :
    countedParts (cs.dropWhile (· == '/')) = countedParts cs := by
  induction cs with
  | nil => rfl
  | cons c cs ih =>
    rw [List.dropWhile_cons]
    split
    · rename_i hslash
      have hempty : Path.counts (String.ofList []) = false := by decide
      rw [ih, eq_of_beq hslash, countedParts, countedParts, Text.split, if_pos rfl, List.map_cons,
        List.filter_cons_of_neg (by rw [hempty]; exact Bool.false_ne_true)]
    · rfl

/-- The characters of a directory **in normal form**: no backslash, no slash in front, and one at
the end unless there are none. -/
structure IsNormalDirectory (cs : List Char) : Prop where
  slashed : '\\' ∉ cs
  relative : cs.head? ≠ some '/'
  ended : cs = [] ∨ cs.getLast? = some '/'

/-- The normal form of a directory is normal. -/
theorem isNormal_normalDirectory (text : Option String) :
    IsNormalDirectory (normalDirectory text).toList := by
  rw [normalDirectory]
  generalize hslashed : ((text.getD "").toList.map fun c => if c = '\\' then '/' else c) = slashed
  have hnone : '\\' ∉ slashed.dropWhile (· == '/') := by
    intro hmem
    rw [← hslashed] at hmem
    obtain ⟨c, -, hc⟩ := List.mem_map.mp ((List.dropWhile_sublist _).subset hmem)
    split at hc
    · exact absurd hc (by decide)
    · rename_i hne
      exact hne hc
  have hhead : (slashed.dropWhile (· == '/')).head? ≠ some '/' := by
    intro hhead
    obtain ⟨rest, hrest⟩ := List.head?_eq_some_iff.mp hhead
    have hnot := List.head_dropWhile_not (· == '/') (l := slashed)
      (by rw [hrest]; exact List.cons_ne_nil _ _)
    simp [hrest] at hnot
  generalize slashed.dropWhile (· == '/') = cs at hnone hhead
  split
  · rename_i hlast
    rw [Bool.or_eq_true, List.isEmpty_iff, beq_iff_eq] at hlast
    rw [String.toList_ofList]
    exact ⟨hnone, hhead, hlast⟩
  · rename_i hlast
    have hne : cs ≠ [] := fun hnil => hlast (by simp [hnil])
    rw [String.toList_ofList]
    refine ⟨by simp [hnone], ?_, Or.inr List.getLast?_concat⟩
    rwa [List.head?_append_of_ne_nil _ hne]

/-- What is normal is its own normal form. -/
theorem normalDirectory_of_isNormal {text : String} (h : IsNormalDirectory text.toList) :
    normalDirectory (some text) = text := by
  have hslashed : (text.toList.map fun c => if c = '\\' then '/' else c) = text.toList := by
    conv_rhs => rw [← List.map_id text.toList]
    refine List.map_congr_left fun c hc => ?_
    rw [if_neg (ne_of_mem_of_not_mem hc h.slashed), id]
  have hrelative : text.toList.dropWhile (· == '/') = text.toList := by
    have hhead := h.relative
    cases htext : text.toList with
    | nil => rfl
    | cons c cs =>
      rw [htext, List.head?_cons] at hhead
      exact List.dropWhile_cons_of_neg fun hslash => hhead (congrArg some (eq_of_beq hslash))
  have hended : (text.toList.isEmpty || text.toList.getLast? == some '/') = true := by
    rw [Bool.or_eq_true, List.isEmpty_iff, beq_iff_eq]
    exact h.ended
  rw [normalDirectory, Option.getD_some, hslashed, hrelative, if_pos hended, String.ofList_toList]

/-- To bring a directory into its normal form a second time changes nothing. -/
theorem normalDirectory_normalDirectory (text : Option String) :
    normalDirectory (some (normalDirectory text)) = normalDirectory text :=
  normalDirectory_of_isNormal (isNormal_normalDirectory text)

/-- **The path of a directory** that an option names is relative, and has the components of the
text. -/
theorem ofString_normalDirectory (text : String) :
    Path.ofString (normalDirectory (some text)) = ⟨false, slashedParts text⟩ := by
  have hrelative := (isNormal_normalDirectory (some text)).relative
  have hparts : countedParts (normalDirectory (some text)).toList = slashedParts text := by
    rw [normalDirectory, slashedParts, Option.getD_some]
    generalize (text.toList.map fun c => if c = '\\' then '/' else c) = slashed
    split
    · rw [String.toList_ofList, countedParts_dropWhile_slash]
    · rw [String.toList_ofList, countedParts_concat_slash, countedParts_dropWhile_slash]
  rw [Path.ofString, beq_false_of_ne hrelative, ← hparts]
  rfl

end ProviderRegistry
