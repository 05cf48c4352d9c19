import ProviderRegistry.Source.Files

/-!
# Rounds of sources

All modules of a source tree together make one round. Now that the classes of all modules are
known, what a class inherits from can be followed through them: each class gets all its supertypes,
and one that writes no constructor gets the answer of the nearest supertype that does.

A declaration can be seen both as a class of its module and as something marked, and is then one
and the same; declarations of one name are told apart, but only the last one is looked up by its
name.
-/

namespace ProviderRegistry.Source

/-- A round: every class at the top level, and everything marked. -/
structure Round where
  declarations : List Declaration
  annotated : List Declaration
  syntaxErrors : List String

/-! ### Supertypes -/

/-- A table without a name. -/
def without {α : Type} (table : List (String × α)) (name : String) : List (String × α) :=
  table.filter fun entry => entry.1 != name

theorem length_without_lt {α : Type} {table : List (String × α)} {name : String} {x : α}
    (h : table.lookup name = some x) : (without table name).length < table.length := by
  unfold without
  induction table with
  | nil => simp at h
  | cons entry table ih =>
    obtain ⟨key, value⟩ := entry
    by_cases hk : name = key
    · subst hk
      have := List.length_filter_le (fun entry : String × α => entry.1 != name) table
      simp only [List.filter_cons, bne_self_eq_false, Bool.false_eq_true, if_false,
        List.length_cons]
      omega
    · have hne : (name == key) = false := by simpa using hk
      have hne' : (key != name) = true := by simpa using Ne.symm hk
      rw [List.lookup_cons, hne] at h
      have := ih h
      simp only [List.filter_cons, hne', if_true, List.length_cons]
      omega

/-- Follows names in depth: each is followed by what it inherits from, unless it was seen before or
is the class itself. The table holds what the names that were not seen yet inherit from. -/
def followSupertypes (self : Option String) (table : List (String × List String))
    (seen : List String) : List String → List String
  | [] => seen
  | name :: rest =>
    if name ∈ seen ∨ self = some name then followSupertypes self table seen rest
    else
      match _h : table.lookup name with
      | none => followSupertypes self table (seen ++ [name]) rest
      | some supertypes =>
        followSupertypes self (without table name) (seen ++ [name]) (supertypes ++ rest)
  termination_by stack => (table.length, stack.length)
  decreasing_by
    · exact Prod.Lex.right _ (by simp)
    · exact Prod.Lex.right _ (by simp)
    · exact Prod.Lex.left _ _ (length_without_lt ‹_›)

/-! ### Looking declarations up -/

/-- The declaration that a name stands for. -/
def lookUp (index : List (Option String × Nat)) (ds : List Declaration) (name : String) :
    Option Declaration :=
  (index.lookup (some name)).bind (ds[·]?)

/-- What each name inherits from as things are. -/
def supertypeTable (index : List (Option String × Nat)) (ds : List Declaration) :
    List (String × List String) :=
  index.filterMap fun (name, place) =>
    match name, ds[place]? with
    | some name, some d => some (name, d.supertypes)
    | _, _ => none

/-- Gives the declaration at a place all its supertypes. -/
def expandAt (index : List (Option String × Nat)) (ds : List Declaration) (place : Nat) :
    List Declaration :=
  ds.modify place fun d =>
    { d with supertypes := followSupertypes d.name (supertypeTable index ds) [] d.supertypes }

/-- Can a class without a constructor of its own be made without arguments? The first supertype
that writes a constructor decides. -/
def inheritedConstructor (index : List (Option String × Nat)) (ds : List Declaration)
    (supertypes : List String) : Bool :=
  let writers := supertypes.filterMap fun name => (lookUp index ds name).filter (·.definesInit)
  (writers.head?.map (·.hasNoargConstructor)).getD true

/-- Gives the declaration at a place the constructor that it inherits, unless it writes one. -/
def inheritAt (index : List (Option String × Nat)) (ds : List Declaration) (place : Nat) :
    List Declaration :=
  ds.modify place fun d =>
    if d.definesInit then d
    else { d with hasNoargConstructor := inheritedConstructor index ds d.supertypes }

/-! ### Rounds -/

/-- The declarations of all modules without repetition, and where each marked one is among them,
which is given the number of classes at the top level. -/
def placeMarked (offset next : Nat) : List Marked → List Nat × List Declaration
  | [] => ([], [])
  | .topLevel i :: rest =>
    let (places, own) := placeMarked offset next rest
    ((offset + i) :: places, own)
  | .own d :: rest =>
    let (places, own) := placeMarked offset (next + 1) rest
    (next :: places, d :: own)

@[inherit_doc placeMarked]
def placeAllMarked (offset next : Nat) : List DeclaringModule → List Nat × List Declaration
  | [] => ([], [])
  | m :: rest =>
    let (places, own) := placeMarked offset next m.marked
    let (morePlaces, moreOwn) :=
      placeAllMarked (offset + m.topLevel.length) (next + own.length) rest
    (places ++ morePlaces, own ++ moreOwn)

/-- The order in which declarations are looked at by their names: the classes at the top level
first, then everything marked. -/
def indexOf (classes : Nat) (places : List Nat) (ds : List Declaration) :
    List (Option String × Nat) :=
  let seen := (List.range classes ++ places).filterMap fun place => (ds[place]?).map ((·, place))
  seen.foldl (fun index (d, place) =>
    if index.any (·.1 == d.name) then
      index.map fun entry => if entry.1 == d.name then (d.name, place) else entry
    else index ++ [(d.name, place)]) []

/-- The round that some modules make. -/
def Round.ofModules (modules : List DeclaringModule) : Round :=
  let topLevel := modules.flatMap (·.topLevel)
  let (places, own) := placeAllMarked 0 topLevel.length modules
  let ds := topLevel ++ own
  let index := indexOf topLevel.length places ds
  let order := index.map (·.2)
  let ds := order.foldl (expandAt index) ds
  let ds := order.foldl (inheritAt index) ds
  { declarations := ds.take topLevel.length
    annotated := places.filterMap (ds[·]?)
    syntaxErrors := modules.filterMap (·.syntaxError) }

/-- The round that the source files below a root make. -/
def Round.ofTree (tree : FileTree) (root : Path) : Except Fault Round :=
  return .ofModules (← declaredBelow tree root)

end ProviderRegistry.Source
