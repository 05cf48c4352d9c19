import Mathlib.Data.List.Basic
import ProviderRegistry.Source.Round

/-!
# What a round of sources takes over from its modules

To make a round of some modules is to find out what their classes inherit. Nothing else of a
declaration changes, so the classes of the round are those at the top level of the modules, one
after the other, in everything that is not inherited
(`IgnoresInherited.map_declarations_ofModules`), their names for example
(`map_name_declarations_ofModules`).
-/

namespace ProviderRegistry.Source

variable {modules : List DeclaringModule}

/-- One of some modules has a class of a name at its **top level**. -/
def DeclaresTopLevel (modules : List DeclaringModule) (name : String) : Prop :=
  ∃ m ∈ modules, ∃ d ∈ m.topLevel, d.name = some name

instance (modules : List DeclaringModule) (name : String) :
    Decidable (DeclaresTopLevel modules name) :=
  inferInstanceAs (Decidable (∃ m ∈ modules, ∃ d ∈ m.topLevel, d.name = some name))

/-! ### What is not inherited stays as it is -/

/-- A function of declarations **ignores what is inherited** when neither the supertypes nor the
constructor make a difference to it. -/
def IgnoresInherited {α : Type} (f : Declaration → α) : Prop :=
  ∀ (d : Declaration) (supertypes : List String) (hasNoargConstructor : Bool),
    f { d with supertypes, hasNoargConstructor } = f d

private theorem map_modify {α : Type} {f : Declaration → α} {change : Declaration → Declaration}
    (h : ∀ d, f (change d) = f d) (place : ℕ) (ds : List Declaration) :
    (ds.modify place change).map f = ds.map f := by
  refine List.ext_getElem? fun i => ?_
  rw [List.getElem?_map, List.getElem?_map, List.getElem?_modify]
  cases ds[i]? with
  | none => rfl
  | some d => by_cases hplace : place = i <;> simp [hplace, h]

namespace IgnoresInherited

variable {α : Type} {f : Declaration → α} (h : IgnoresInherited f)

include h

/-- What an expansion does not change of a declaration stays the same of all. -/
theorem map_expandAt (index : List (Option String × ℕ)) (ds : List Declaration) (place : ℕ) :
    (expandAt index ds place).map f = ds.map f :=
  map_modify (fun d => h d _ d.hasNoargConstructor) place ds

/-- What inheriting does not change of a declaration stays the same of all. -/
theorem map_inheritAt (index : List (Option String × ℕ)) (ds : List Declaration) (place : ℕ) :
    (inheritAt index ds place).map f = ds.map f := by
  refine map_modify (fun d => ?_) place ds
  split
  · rfl
  · exact h d d.supertypes _

end IgnoresInherited

private theorem map_foldl {α : Type} {f : Declaration → α}
    {step : List Declaration → ℕ → List Declaration}
    (h : ∀ ds place, (step ds place).map f = ds.map f) (places : List ℕ) (ds : List Declaration) :
    (places.foldl step ds).map f = ds.map f := by
  induction places generalizing ds with
  | nil => rfl
  | cons place places ih => rw [List.foldl_cons, ih, h]

/-- **The classes of a round** are those at the top level of its modules, in everything that is not
inherited. -/
theorem IgnoresInherited.map_declarations_ofModules {α : Type} {f : Declaration → α}
    (h : IgnoresInherited f) (modules : List DeclaringModule) :
    (Round.ofModules modules).declarations.map f = (modules.flatMap (·.topLevel)).map f := by
  rw [Round.ofModules, List.map_take, map_foldl (h.map_inheritAt _), map_foldl (h.map_expandAt _),
    List.map_append]
  exact List.take_left' (List.length_map _)

/-- The classes of a round have the names that those at the top level of its modules have. -/
theorem map_name_declarations_ofModules (modules : List DeclaringModule) :
    (Round.ofModules modules).declarations.map Declaration.name =
      (modules.flatMap (·.topLevel)).map Declaration.name :=
  IgnoresInherited.map_declarations_ofModules (fun _ _ _ => rfl) modules

/-- A round declares the names that are at the top level of its modules. -/
theorem exists_declaration_iff {name : String} :
    (∃ d ∈ (Round.ofModules modules).declarations, d.name = some name) ↔
      DeclaresTopLevel modules name := by
  have hnames : ∀ ds : List Declaration,
      (∃ d ∈ ds, d.name = some name) ↔ some name ∈ ds.map Declaration.name := fun ds =>
    List.mem_map.symm
  rw [hnames, map_name_declarations_ofModules, ← hnames]
  simp only [List.mem_flatMap, DeclaresTopLevel]
  constructor
  · rintro ⟨d, ⟨m, hm, hd⟩, hname⟩
    exact ⟨m, hm, d, hd, hname⟩
  · rintro ⟨m, hm, d, hd, hname⟩
    exact ⟨d, ⟨m, hm, hd⟩, hname⟩

end ProviderRegistry.Source
