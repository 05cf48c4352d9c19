import ProviderRegistry.Text.Split

/-!
# Paths

A path is a sequence of components, relative or from the root. Empty components and components that
are a single dot do not count; a double dot is kept as it stands, since what it leads to depends on
the tree. Joining appends components, unless the second path starts at the root.
-/

namespace ProviderRegistry

/-- A path: its components and whether it starts at the root. -/
structure Path where
  absolute : Bool
  parts : List String
  deriving DecidableEq, Repr

namespace Path

/-- The relative path without components, the directory one is in. -/
def here : Path := ⟨false, []⟩

/-- A component that leads somewhere. -/
def counts (part : String) : Bool := part != "" && part != "."

/-- A text is a **name** when a file can be called that: as a path it is one component, and not the
one that leads up. -/
def IsName (name : String) : Prop := '/' ∉ name.toList ∧ counts name = true ∧ name ≠ ".."

instance (name : String) : Decidable (IsName name) := inferInstanceAs (Decidable (_ ∧ _ ∧ _))

/-- The path that a text denotes. -/
def ofString (s : String) : Path where
  absolute := s.toList.head? == some '/'
  parts := ((Text.split '/' s.toList).map String.ofList).filter counts

/-- The components with a slash between two, a leading slash for a path from the root, and a dot
for the relative path without components. -/
def toString (p : Path) : String :=
  let body := "/".intercalate p.parts
  if p.absolute then "/" ++ body else if p.parts.isEmpty then "." else body

instance : ToString Path := ⟨toString⟩

/-- The second path seen from the first. -/
def join (p q : Path) : Path :=
  if q.absolute then q else ⟨p.absolute, p.parts ++ q.parts⟩

/-- The path one component further. -/
def child (p : Path) (part : String) : Path := p.join (ofString part)

/-- The path of what a directory has under a name, which is taken as it is. -/
def entry (p : Path) (name : String) : Path := p.join ⟨false, [name]⟩

/-- The path without its last component. -/
def parent (p : Path) : Path := { p with parts := p.parts.dropLast }

/-- The last component, empty if there is none. -/
def name (p : Path) : String := p.parts.getLast?.getD ""

/-- A name in two: the part before its last dot, and the suffix from that dot on. A dot at
either end of the name starts no suffix. -/
def stemAndSuffix (name : String) : String × String :=
  match Text.beforeLast? '.' name.toList with
  | none => (name, "")
  | some stem =>
    let suffix := Text.afterLast '.' name.toList
    if stem.isEmpty || suffix.isEmpty then (name, "")
    else (String.ofList stem, "." ++ String.ofList suffix)

/-- The suffix of the last component, with its dot. -/
def suffix (p : Path) : String := (stemAndSuffix p.name).2

/-- The components with the suffix of the last one dropped. -/
def partsWithoutSuffix (p : Path) : List String :=
  p.parts.dropLast ++ (p.parts.getLast?.map fun name => (stemAndSuffix name).1).toList

/-- The path as seen from one of its ancestors, if that is what the other path is. -/
def relativeTo? (p root : Path) : Option Path :=
  if p.absolute == root.absolute && root.parts.isPrefixOf p.parts then
    some ⟨false, p.parts.drop root.parts.length⟩
  else none

/-- The order of sequences of components: the first ones that differ decide. -/
def partsAscend : List String → List String → Bool
  | [], _ => true
  | _ :: _, [] => false
  | a :: as, b :: bs => if a = b then partsAscend as bs else a < b

@[simp]
theorem parts_join {p q : Path} (h : q.absolute = false) :
    (p.join q).parts = p.parts ++ q.parts := by
  simp [join, h]

/-- A path is seen from an ancestor as what was joined to it. -/
theorem relativeTo?_join {p q : Path} (h : q.absolute = false) :
    (p.join q).relativeTo? p = some ⟨false, q.parts⟩ := by
  simp [relativeTo?, join, h]

@[simp]
theorem parts_entry (p : Path) (name : String) : (p.entry name).parts = p.parts ++ [name] :=
  parts_join rfl

private theorem length_le_size_intercalate (parts : List String) :
    parts.length ≤ ("/".intercalate parts).utf8ByteSize + 1 := by
  induction parts with
  | nil => exact Nat.zero_le _
  | cons part parts ih =>
    cases parts with
    | nil => exact Nat.le_add_left 1 _
    | cons next parts =>
      have hslash : "/".utf8ByteSize = 1 := rfl
      rw [String.intercalate_cons_cons, String.utf8ByteSize_append, String.utf8ByteSize_append,
        List.length_cons]
      omega

/-- There is a slash before each component of a path but the first. -/
theorem length_parts_le_size (p : Path) : p.parts.length ≤ p.toString.utf8ByteSize + 1 := by
  have hbody := length_le_size_intercalate p.parts
  simp only [toString]
  split
  · rw [String.utf8ByteSize_append]
    omega
  · split
    · rename_i hparts
      rw [List.isEmpty_iff.mp hparts]
      exact Nat.zero_le _
    · exact hbody

end Path

end ProviderRegistry
