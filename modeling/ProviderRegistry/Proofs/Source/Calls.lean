import Mathlib.Data.List.Count
import ProviderRegistry.Proofs.Source.Headers

/-!
# Calls of a constructor

A call **binds** when every parameter that has no default gets an argument and every argument gets
a parameter (`Parameters.Binds`). A class is made without arguments when its constructor binds with
the object alone. What a class declaration says of this comes from counting the parameters without
a default, which is enough since the parameters of a text are in order (`Stmt.Orderly.of_parse`).
It is right for a constructor that takes the object (`own_constructor_binds`), with two exceptions.
Of several constructors the first counts, although the last is the one in effect, and a constructor
that takes nothing counts as one that can be called with the object
(`constructor_of_shadowed_and_bare`).
-/

namespace ProviderRegistry.Source

namespace Parameters

/-- A call with some arguments in their places and none by name **binds**: they are not too many,
and the parameters that get none of them have defaults. -/
structure Binds (p : Parameters) (count : ℕ) : Prop where
  taken : p.variadic = true ∨ count ≤ p.places.length
  places : ∀ default ∈ p.places.drop count, default = true
  names : ∀ default ∈ p.keywordOnly, default = true

instance (p : Parameters) (count : ℕ) : Decidable (p.Binds count) :=
  decidable_of_iff ((p.variadic = true ∨ count ≤ p.places.length) ∧
      (∀ default ∈ p.places.drop count, default = true) ∧
        ∀ default ∈ p.keywordOnly, default = true)
    ⟨fun h => ⟨h.1, h.2.1, h.2.2⟩, fun h => ⟨h.taken, h.places, h.names⟩⟩

/-- There are no more places without a default than arguments just when all places after the
arguments have one. -/
theorem length_sub_countP_le_iff {places : List Bool} (h : DefaultsLast places) (count : ℕ) :
    places.length - places.countP id ≤ count ↔ ∀ default ∈ places.drop count, default = true := by
  induction places generalizing count with
  | nil => simp
  | cons default places ih =>
    obtain ⟨hlater, hrest⟩ := List.pairwise_cons.mp h
    have hle := @List.countP_le_length Bool id places
    cases default with
    | true =>
      have hall : ∀ later ∈ true :: places, later = true := by
        simpa using fun later => hlater later
      have hcount : (true :: places).countP id = (true :: places).length :=
        List.countP_eq_length.mpr hall
      rw [hcount, Nat.sub_self]
      exact iff_of_true count.zero_le fun later hmem => hall later (List.mem_of_mem_drop hmem)
    | false =>
      rw [List.countP_cons_of_neg (by simp), List.length_cons]
      cases count with
      | zero => simp; omega
      | succ count =>
        rw [List.drop_succ_cons, ← ih hrest]
        omega

/-- **A method can be called with the object alone** just when a call with one argument binds, or
one without any. -/
theorem allowNoArgument_iff {p : Parameters} (h : p.Ordered) :
    p.allowNoArgument = true ↔ p.Binds 1 ∨ p.Binds 0 := by
  have hrequired : p.allowNoArgument = true ↔
      (∀ default ∈ p.places.drop 1, default = true) ∧
        ∀ default ∈ p.keywordOnly, default = true := by
    rw [← length_sub_countP_le_iff h, allowNoArgument, Bool.and_eq_true, decide_eq_true_eq,
      List.all_eq_true]
    rfl
  rw [hrequired]
  constructor
  · rintro ⟨hplaces, hnames⟩
    by_cases htaken : 1 ≤ p.places.length
    · exact Or.inl ⟨Or.inr htaken, hplaces, hnames⟩
    · have hnone : p.places = [] := List.length_eq_zero_iff.mp (by omega)
      exact Or.inr ⟨Or.inr (Nat.zero_le _), by simp [hnone], hnames⟩
  · rintro (hbinds | hbinds)
    · exact ⟨hbinds.places, hbinds.names⟩
    · exact ⟨fun default hmem => hbinds.places default (List.mem_of_mem_drop hmem), hbinds.names⟩

/-- A method that takes an argument binds with one wherever it binds without. -/
theorem Binds.one_of_zero {p : Parameters} (h : p.Binds 0)
    (htaken : p.variadic = true ∨ 1 ≤ p.places.length) : p.Binds 1 :=
  ⟨htaken, fun default hmem => h.places default (List.mem_of_mem_drop hmem), h.names⟩

end Parameters

/-- The constructors that a class body writes, in their order. -/
def constructors (body : List Stmt) : List Parameters := body.filterMap constructor?

theorem ownConstructor?_of_constructors {body : List Stmt} {first : Parameters}
    {rest : List Parameters} (h : constructors body = first :: rest) :
    ownConstructor? body = some first.allowNoArgument := by
  have hfirst : body.findSome? constructor? = some first := by
    rw [← List.head?_filterMap, ← constructors, h, List.head?_cons]
  rw [ownConstructor?, hfirst, Option.map_some]

theorem exists_of_constructor? {st : Stmt} {parameters : Parameters}
    (h : constructor? st = some parameters) : ∃ line decorators body,
      st = .functionDef line "__init__" false parameters decorators body := by
  unfold constructor? at h
  split at h
  · next line name written decorators body =>
    split at h
    · next hname =>
      obtain rfl := Option.some.inj h
      exact ⟨line, decorators, body, by rw [hname]⟩
    · cases h
  · cases h

/-- The constructors of a class that stands in a text have their parameters in order. -/
theorem ordered_of_constructors {text : String} {body around inner : List Stmt} {place : List ℕ}
    {line : ℕ} {name : String} {bases : List Expr} {keywords : List (Option String × Expr)}
    {decorators : List Expr} {parameters : Parameters} (hparse : parse text = .ok body)
    (hclass : StandsAt body place around (.classDef line name bases keywords decorators inner))
    (hwritten : parameters ∈ constructors inner) : parameters.Ordered := by
  obtain ⟨st, hst, hconstructor⟩ := List.mem_filterMap.mp hwritten
  have horderly : st.Orderly := by
    cases Stmt.Orderly.of_standsAt (Stmt.Orderly.of_parse hparse) hclass with
    | classDef hinner => exact hinner st hst
  obtain ⟨_, _, _, rfl⟩ := exists_of_constructor? hconstructor
  cases horderly with
  | functionDef hparameters _ => exact hparameters

/-- **The constructor of a class** that writes any is the first. The class counts as one that can
be made without arguments just when a call of the first with the object binds, or with nothing at
all; if it takes an argument, the first alone decides. -/
theorem own_constructor_binds {text : String} {body around inner : List Stmt} {place : List ℕ}
    {line : ℕ} {name : String} {bases : List Expr} {keywords : List (Option String × Expr)}
    {decorators : List Expr} {first : Parameters} {rest : List Parameters}
    (hparse : parse text = .ok body)
    (hclass : StandsAt body place around (.classDef line name bases keywords decorators inner))
    (hwritten : constructors inner = first :: rest) (s : Surroundings) :
    let d := classDeclaration s line name bases keywords decorators inner
    d.definesInit = true ∧
      (d.hasNoargConstructor = true ↔ first.Binds 1 ∨ first.Binds 0) ∧
      (first.variadic = true ∨ 1 ≤ first.places.length →
        (d.hasNoargConstructor = true ↔ first.Binds 1)) := by
  have hown := ownConstructor?_of_constructors hwritten
  have hallow := Parameters.allowNoArgument_iff
    (ordered_of_constructors hparse hclass (hwritten ▸ List.mem_cons_self))
  simp only [classDeclaration, hown, Option.getD_some, Option.isSome_some, hallow, true_and]
  exact fun htaken => or_iff_left_of_imp fun h => h.one_of_zero htaken

/-- A class whose constructor takes the object and a place with a default. -/
def sizedText : String := "class A:\n def __init__(self, size=0): 0"

/-- The body of the class in it. -/
def sizedBody : List Stmt :=
  [.functionDef 2 "__init__" false { positional := [false, true] } [] [.other]]

set_option maxRecDepth 100000 in
theorem parse_sizedText : parse sizedText = .ok [.classDef 1 "A" [] [] [] sizedBody] := by cbv

/-- A module without imports. -/
def bareModule : Surroundings where
  scope := .ofBody "m" "" []
  sourceFile := "m.py"
  path := "m"
  inClass := false
  inFunction := false
  inHidden := false

/-- A class can be made without arguments when all that its constructor takes but the object has a
default. -/
theorem own_constructor_binds_of_default :
    let p : Parameters := { positional := [false, true] }
    let d := classDeclaration bareModule 1 "A" [] [] [] sizedBody
    parse sizedText = .ok [.classDef 1 "A" [] [] [] sizedBody] ∧ constructors sizedBody = [p] ∧
      p.Binds 1 ∧ d.definesInit = true ∧ d.hasNoargConstructor = true := by
  intro p d
  have hclass : StandsAt [.classDef 1 "A" [] [] [] sizedBody] [0] []
      (.classDef 1 "A" [] [] [] sizedBody) := .direct rfl
  have hwritten : constructors sizedBody = [p] := rfl
  have hbinds : p.Binds 1 := by decide
  obtain ⟨hdefines, -, hnoarg⟩ :=
    own_constructor_binds parse_sizedText hclass hwritten bareModule
  exact ⟨parse_sizedText, hwritten, hbinds, hdefines, (hnoarg (by decide)).mpr hbinds⟩

/-- What is said of a class in whose body nothing stands but constructors. -/
def classWriting (parameters : List Parameters) : Declaration :=
  classDeclaration bareModule 1 "A" [] [] []
    (parameters.map fun p => .functionDef 2 "__init__" false p [] [.other])

/-- **The last constructor is not asked, and the object is not always taken.** The first of two
constructors decides for the class, in either order, though the second replaces it. And a
constructor without any parameter, which no call with the object binds, counts as one that can be
called so. -/
theorem constructor_of_shadowed_and_bare :
    let bare : Parameters := {}
    let plain : Parameters := { positional := [false] }
    let sized : Parameters := { positional := [false, false] }
    (¬ bare.Binds 1 ∧ (classWriting [bare]).hasNoargConstructor = true) ∧
      (plain.Binds 1 ∧ (classWriting [sized, plain]).hasNoargConstructor = false) ∧
      (¬ sized.Binds 1 ∧ (classWriting [plain, sized]).hasNoargConstructor = true) := by
  decide

end ProviderRegistry.Source
