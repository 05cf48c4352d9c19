import Mathlib
import ProviderRegistry.Source.Files

/-!
# What is marked in a module

A module lists the classes of its body, and whatever carries a marker. A marked class counts
however deep it stands: statements lead to it that each are in the body of the one before
(`StandsAt`), and these decide its name, who may use it and where it stands (`DescribesClass`).
Places are lists of indices, whose order is that of the source, with what is outside before what is
inside. A module in a file that can be parsed has a mark for each place of something marked, in
this order (`declaredInFile_finds`).
-/

namespace ProviderRegistry.Source

/-! ### Statements inside each other -/

namespace Stmt

/-- The name of a class or a function. -/
def name : Stmt → String
  | .classDef _ name .. | .functionDef _ name .. => name
  | _ => ""

/-- The line of the header of a class or a function. -/
def line : Stmt → ℕ
  | .classDef line .. | .functionDef line .. => line
  | _ => 0

/-- The decorators of a class or a function. -/
def decorators : Stmt → List Expr
  | .classDef _ _ _ _ decorators _ | .functionDef _ _ _ _ decorators _ => decorators
  | _ => []

/-- The body of a class or a function. -/
def body : Stmt → List Stmt
  | .classDef _ _ _ _ _ body | .functionDef _ _ _ _ _ body => body
  | _ => []

/-- Is it a class? -/
def isClass : Stmt → Bool
  | .classDef .. => true
  | _ => false

/-- Is it a function? -/
def isFunction : Stmt → Bool
  | .functionDef .. => true
  | _ => false

/-- Is it a class that keeps what is in it to itself? -/
def isHiddenClass (st : Stmt) : Bool := st.isClass && st.name.toList.head? = some '_'

/-- What a class or a function adds to the names of the classes in it. -/
def nameParts : Stmt → List String
  | .classDef _ name .. => [name]
  | .functionDef _ name .. => [name, "<locals>"]
  | _ => []

end Stmt

/-- A statement **stands at** a place of a body, inside some others: the place has the index of the
outermost one in the body, then that of the next one in the body of that one, and so on. -/
inductive StandsAt : List Stmt → List ℕ → List Stmt → Stmt → Prop where
  | direct {body : List Stmt} {index : ℕ} {st : Stmt} (hst : body[index]? = some st) :
    StandsAt body [index] [] st
  | inside {body : List Stmt} {index : ℕ} {place : List ℕ} {outer st : Stmt} {around : List Stmt}
    (houter : body[index]? = some outer) (hst : StandsAt outer.body place around st) :
    StandsAt body (index :: place) (outer :: around) st

/-- A decorator **calls a marker** when it calls something whose name ends in that of a marker. -/
def CallsMarker (scope : Scope) : Expr → Prop
  | .call _ function _ _ =>
    ∃ name ∈ scope.resolve? function, ∃ marker : Marker, simpleName name = marker.name
  | _ => False

/-- A statement **has a marker** when one of its decorators calls one. -/
def HasMarker (scope : Scope) (st : Stmt) : Prop := ∃ e ∈ st.decorators, CallsMarker scope e

/-- Some property **holds at** a place of a body, of what stands there and what is around it. -/
def HoldsAt (P : List Stmt → Stmt → Prop) (body : List Stmt) (place : List ℕ) : Prop :=
  ∃ around st, StandsAt body place around st ∧ P around st

/-- Something that has a marker stands at a place: a class, or a function of the body itself. -/
def MarkedAt (scope : Scope) (body : List Stmt) (place : List ℕ) : Prop :=
  HoldsAt (fun around st => HasMarker scope st ∧ (st.isClass ∨ around = [] ∧ st.isFunction)) body
    place

/-- A declaration **describes a class** that stands inside some statements of a module. -/
structure DescribesClass (scope : Scope) (path : String) (around : List Stmt) (st : Stmt)
    (d : Declaration) : Prop where
  isClass : st.isClass
  name : d.name =
    some (ofDottedParts (scope.module :: (around.flatMap Stmt.nameParts ++ [st.name])))
  visibility : d.visibility = .hidden ↔ ∃ c ∈ around ++ [st], c.isHiddenClass
  isStatic : d.isStatic = false ↔ ∃ f ∈ around, f.isFunction
  isNested : d.isNested = true ↔ ∃ c ∈ around.getLast?, c.isClass
  markers : d.markers = markersOf scope st.decorators
  sourceFile : d.sourceFile = path
  line : d.line = st.line

/-- A declaration **describes a function** of the body of a module. -/
structure DescribesFunction (scope : Scope) (path : String) (st : Stmt) (d : Declaration) :
    Prop where
  isFunction : st.isFunction
  kind : d.kind = .function
  name : d.name = some (ofDottedParts [scope.module, st.name])
  visibility : d.visibility = .hidden ↔ st.name.toList.head? = some '_'
  markers : d.markers = markersOf scope st.decorators
  sourceFile : d.sourceFile = path
  line : d.line = st.line

/-- A mark is **for** what stands at a place. For a class of the body itself it is the declaration
that is listed among the classes anyway. -/
inductive MarkFor (scope : Scope) (path : String) (body : List Stmt) (classes : List Declaration) :
    List ℕ → Marked → Prop where
  | topLevel {index : ℕ} {st : Stmt} {d : Declaration} (hst : body[index]? = some st)
    (hlisted : classes[(body.take index).countP Stmt.isClass]? = some d)
    (hd : DescribesClass scope path [] st d) :
    MarkFor scope path body classes [index] (.topLevel ((body.take index).countP Stmt.isClass))
  | inside {place : List ℕ} {outer st : Stmt} {around : List Stmt} {d : Declaration}
    (hst : StandsAt body place (outer :: around) st)
    (hd : DescribesClass scope path (outer :: around) st d) :
    MarkFor scope path body classes place (.own d)
  | function {index : ℕ} {st : Stmt} {d : Declaration} (hst : body[index]? = some st)
    (hd : DescribesFunction scope path st d) :
    MarkFor scope path body classes [index] (.own d)

/-- Some things **list** places when each fits one of them, in ascending order, and none is left
out. -/
def Lists {α : Type} (Listed : List ℕ → Prop) (Fits : List ℕ → α → Prop) (found : List α) : Prop :=
  ∃ places : List (List ℕ), places.Pairwise (· < ·) ∧ (∀ place, place ∈ places ↔ Listed place) ∧
    List.Forall₂ Fits places found

/-- A module **finds** what is in a body: all classes of the body, and everything marked. -/
structure Finds (scope : Scope) (body : List Stmt) (m : DeclaringModule) : Prop where
  topLevel :
    List.Forall₂ (DescribesClass scope m.path []) (body.filter Stmt.isClass) m.topLevel
  marked : Lists (MarkedAt scope body) (MarkFor scope m.path body m.topLevel) m.marked

/-! ### Lists of places -/

namespace Lists

variable {α β : Type} {Listed Listed₁ Listed₂ : List ℕ → Prop} {Fits : List ℕ → α → Prop}
  {xs ys : List α}

/-- The empty list lists what has no places. -/
theorem nil (h : ∀ place, ¬Listed place) : Lists Listed Fits [] :=
  ⟨[], .nil, fun place => iff_of_false List.not_mem_nil (h place), .nil⟩

/-- One member lists one place. -/
theorem singleton {place : List ℕ} {x : α} (h : ∀ other, Listed other ↔ other = place)
    (hx : Fits place x) : Lists Listed Fits [x] :=
  ⟨[place], List.pairwise_singleton _ _, fun other => List.mem_singleton.trans (h other).symm,
    .cons hx .nil⟩

/-- One place that counts under a condition, and its member under the same. -/
theorem ite {c : Prop} [Decidable c] {place : List ℕ} {x : α} (h : c → Fits place x) :
    Lists (fun other => other = place ∧ c) Fits (if c then [x] else []) := by
  by_cases hc : c
  · rw [if_pos hc]
    exact singleton (fun other => and_iff_left hc) (h hc)
  · rw [if_neg hc]
    exact nil fun _ hplace => hc hplace.2

/-- One list after another lists the places of both, if the places of the first come before those
of the second. -/
theorem append (hxs : Lists Listed₁ Fits xs) (hys : Lists Listed₂ Fits ys)
    (hlt : ∀ p q, Listed₁ p → Listed₂ q → p < q)
    (hlisted : ∀ p, Listed p ↔ Listed₁ p ∨ Listed₂ p) : Lists Listed Fits (xs ++ ys) := by
  obtain ⟨ps, hps, hmem, hfits⟩ := hxs
  obtain ⟨qs, hqs, hmem', hfits'⟩ := hys
  refine ⟨ps ++ qs, ?_, fun place => ?_, List.rel_append hfits hfits'⟩
  · exact List.pairwise_append.mpr ⟨hps, hqs, fun p hp q hq =>
      hlt p q ((hmem p).mp hp) ((hmem' q).mp hq)⟩
  · rw [List.mem_append, hmem, hmem', hlisted]

/-- A change that keeps the order of places carries a list over to the new ones. -/
theorem map {Fits' : List ℕ → β → Prop} {f : List ℕ → List ℕ} {g : α → β}
    (hf : ∀ p q, p < q → f p < f q) (hxs : Lists Listed₁ Fits xs)
    (hlisted : ∀ p, Listed p ↔ ∃ q, Listed₁ q ∧ f q = p)
    (hfits : ∀ q x, Fits q x → Fits' (f q) (g x)) : Lists Listed Fits' (xs.map g) := by
  obtain ⟨ps, hps, hmem, hrel⟩ := hxs
  refine ⟨ps.map f, hps.map f fun p q => hf p q, fun place => ?_, ?_⟩
  · simp only [List.mem_map, hmem, hlisted]
  · rw [List.forall₂_map_left_iff, List.forall₂_map_right_iff]
    exact hrel.imp hfits

/-- Which places are listed may be said in other words. -/
theorem congr (hxs : Lists Listed₁ Fits xs) (hlisted : ∀ p, Listed p ↔ Listed₁ p) :
    Lists Listed Fits xs := by
  obtain ⟨ps, hps, hmem, hfits⟩ := hxs
  exact ⟨ps, hps, fun place => (hmem place).trans (hlisted place).symm, hfits⟩

end Lists

/-! ### Places in a body -/

/-- A place, seen from one statement before. -/
def later : List ℕ → List ℕ
  | [] => []
  | index :: place => (index + 1) :: place

/-- Places keep their order when a statement is put in front of them. -/
theorem later_lt_later {p q : List ℕ} (h : p < q) : later p < later q := by
  cases p with
  | nil =>
    cases q with
    | nil => exact h
    | cons => exact List.nil_lt_cons _ _
  | cons i p =>
    cases q with
    | nil => exact absurd h (List.not_lt_nil _)
    | cons j q =>
      rw [List.cons_lt_cons_iff] at h
      rw [later, later, List.cons_lt_cons_iff]
      exact h.imp (Nat.add_lt_add_right · 1) (And.imp_left (congrArg (· + 1)))

variable {scope : Scope} {path : String} {body rest around : List Stmt} {st first : Stmt}
  {place : List ℕ} {P Q : List Stmt → Stmt → Prop}

namespace HoldsAt

/-- Every statement stands somewhere: its place is not empty. -/
theorem ne_nil (h : HoldsAt P body place) : place ≠ [] := by
  obtain ⟨around, st, hst, -⟩ := h
  cases hst with
  | direct => exact List.cons_ne_nil _ _
  | inside => exact List.cons_ne_nil _ _

/-- No statement stands in an empty body. -/
theorem not_nil : ¬HoldsAt P [] place := by
  rintro ⟨around, st, h, -⟩
  cases h with
  | direct hst => exact absurd hst.symm (Option.some_ne_none _)
  | inside houter => exact absurd houter.symm (Option.some_ne_none _)

/-- A place where more holds is a place where less holds. -/
theorem mono (hPQ : ∀ around st, P around st → Q around st) (h : HoldsAt P body place) :
    HoldsAt Q body place := by
  obtain ⟨around, st, hst, hP⟩ := h
  exact ⟨around, st, hst, hPQ around st hP⟩

theorem direct (hP : P [] first) : HoldsAt P (first :: rest) [0] := ⟨[], first, .direct rfl, hP⟩

/-- A statement in the body of the first stands at a place that starts with the first. -/
theorem inside (h : HoldsAt (fun around st => P (first :: around) st) first.body place) :
    HoldsAt P (first :: rest) (0 :: place) := by
  obtain ⟨around, st, hst, hP⟩ := h
  exact ⟨first :: around, st, .inside rfl hst, hP⟩

/-- A statement after the first stands one later. -/
theorem later (h : HoldsAt P rest place) : HoldsAt P (first :: rest) (later place) := by
  obtain ⟨around, st, hst, hP⟩ := h
  cases hst with
  | direct hst => exact ⟨[], st, .direct hst, hP⟩
  | inside houter hst => exact ⟨_, st, .inside houter hst, hP⟩

/-- The places of a body are its first statement, those inside it, and those that are later. -/
theorem cons_iff : HoldsAt P (first :: rest) place ↔
    ((place = [0] ∧ P [] first) ∨
      ∃ inner, HoldsAt (fun around st => P (first :: around) st) first.body inner ∧
        0 :: inner = place) ∨
      ∃ before, HoldsAt P rest before ∧ Source.later before = place := by
  constructor
  · rintro ⟨around, st, h, hP⟩
    cases h with
    | @direct _ index _ hst =>
      cases index with
      | zero =>
        obtain rfl := Option.some.inj hst
        exact Or.inl (Or.inl ⟨rfl, hP⟩)
      | succ index => exact Or.inr ⟨[index], ⟨[], st, .direct hst, hP⟩, rfl⟩
    | @inside _ index inner _ _ around houter hst =>
      cases index with
      | zero =>
        obtain rfl := Option.some.inj houter
        exact Or.inl (Or.inr ⟨inner, ⟨around, st, hst, hP⟩, rfl⟩)
      | succ index => exact Or.inr ⟨index :: inner, ⟨_, st, .inside houter hst, hP⟩, rfl⟩
  · rintro ((⟨rfl, hP⟩ | ⟨inner, h, rfl⟩) | ⟨before, h, rfl⟩)
    · exact direct hP
    · exact inside h
    · exact later h

end HoldsAt

/-- What lists a statement, what is inside it, and what comes later in its body. -/
theorem Lists.cons {α β : Type} {Fits : List ℕ → β → Prop} {Inner : List ℕ → α → Prop}
    {Later : List ℕ → β → Prop} {own after : List β} {inner : List α} {f : β → β} {g : α → β}
    (hown : Lists (fun place => place = [0] ∧ P [] first) Fits own)
    (hinner : Lists (HoldsAt Q first.body) Inner inner)
    (hrest : Lists (HoldsAt P rest) Later after)
    (hPQ : ∀ around st, P (first :: around) st ↔ Q around st)
    (hg : ∀ place x, Inner place x → Fits (0 :: place) (g x))
    (hf : ∀ place x, Later place x → Fits (later place) (f x)) :
    Lists (HoldsAt P (first :: rest)) Fits (own ++ inner.map g ++ after.map f) := by
  have hinside : Lists (fun place => ∃ inner, HoldsAt Q first.body inner ∧ 0 :: inner = place) Fits
      (inner.map g) :=
    hinner.map (fun _ _ hlt => List.cons_lt_cons_iff.mpr (Or.inr ⟨rfl, hlt⟩)) (fun _ => Iff.rfl) hg
  have hlater : Lists (fun place => ∃ before, HoldsAt P rest before ∧ later before = place) Fits
      (after.map f) :=
    hrest.map (fun _ _ => later_lt_later) (fun _ => Iff.rfl) hf
  refine (hown.append hinside ?_ fun _ => Iff.rfl).append hlater ?_ fun place => ?_
  · -- the place of the statement is the start of the places inside it
    rintro _ _ ⟨rfl, -⟩ ⟨inner, h, rfl⟩
    obtain ⟨index, inner, rfl⟩ := List.exists_cons_of_ne_nil h.ne_nil
    exact List.cons_lt_cons_iff.mpr (Or.inr ⟨rfl, List.nil_lt_cons _ _⟩)
  · -- the index of the statement is less than all that come later
    rintro place _ hplace ⟨before, h, rfl⟩
    obtain ⟨index, before, rfl⟩ := List.exists_cons_of_ne_nil h.ne_nil
    obtain ⟨inner, rfl⟩ : ∃ inner, place = 0 :: inner := by
      rcases hplace with ⟨rfl, -⟩ | ⟨inner, -, rfl⟩
      · exact ⟨[], rfl⟩
      · exact ⟨inner, rfl⟩
    exact List.cons_lt_cons_iff.mpr (Or.inl index.succ_pos)
  · have hiff : (fun around st => P (first :: around) st) = Q :=
      funext fun around => funext fun st => propext (hPQ around st)
    rw [HoldsAt.cons_iff, hiff]

/-! ### Markers -/

/-- A marker is found under its own name and under no other. -/
theorem isSome_ofName?_iff {name : String} :
    (Marker.ofName? name).isSome ↔ ∃ marker : Marker, name = marker.name := by
  rw [Marker.ofName?, List.find?_isSome]
  constructor
  · rintro ⟨marker, -, hname⟩
    exact ⟨marker, (beq_iff_eq.mp hname).symm⟩
  · rintro ⟨marker, rfl⟩
    have hmem : marker ∈ Marker.all := by cases marker <;> decide
    exact ⟨marker, hmem, beq_self_eq_true _⟩

/-- What counts as a use of a marker is what the scope resolves to one. -/
theorem callsMarker_iff {e : Expr} : CallsMarker scope e ↔ (markerCall? scope e).isSome := by
  cases e with
  | call line function arguments keywords =>
    simp only [CallsMarker, markerCall?, ← isSome_ofName?_iff]
    cases scope.resolve? function with
    | none => simp
    | some name =>
      simp only [Option.mem_def, Option.some.injEq, exists_eq_left', Option.bind_eq_bind,
        Option.bind_some]
      cases Marker.ofName? (simpleName name) with
      | none => rfl
      | some marker => rfl
  | _ => simp [CallsMarker, markerCall?]

/-- Once a marker was used the record of markers is not empty, even if the use named no target. -/
theorem addTargets_ne_nil (markers : List (String × List (Option String))) (marker : Marker)
    (targets : List String) : addTargets markers marker targets ≠ [] := by
  rw [addTargets]
  split
  · rename_i hany
    intro hnil
    rw [List.map_eq_nil_iff.mp hnil] at hany
    exact absurd hany (by simp)
  · simp

/-- Decorators give markers when one of them calls one. -/
theorem markersOf_ne_nil_iff (decorators : List Expr) :
    markersOf scope decorators ≠ [] ↔ ∃ e ∈ decorators, CallsMarker scope e := by
  -- no marker is ever taken away again
  have hfold : ∀ (calls : List (Marker × List String)) markers, markers ≠ [] →
      calls.foldl (fun markers call => addTargets markers call.1 call.2) markers ≠ [] := by
    intro calls
    induction calls with
    | nil => exact fun _ h => h
    | cons call calls ih => exact fun _ _ => ih _ (addTargets_ne_nil _ _ _)
  simp only [callsMarker_iff]
  rw [markersOf]
  cases hcalls : decorators.filterMap (markerCall? scope) with
  | nil =>
    refine iff_of_false (fun h => h rfl) ?_
    rintro ⟨e, he, hcall⟩
    rw [List.filterMap_eq_nil_iff] at hcalls
    rw [hcalls e he] at hcall
    exact absurd hcall (by simp)
  | cons call calls =>
    refine iff_of_true (hfold calls _ (addTargets_ne_nil _ _ _)) ?_
    have hcall : call ∈ decorators.filterMap (markerCall? scope) := by simp [hcalls]
    obtain ⟨e, he, hsome⟩ := List.mem_filterMap.mp hcall
    exact ⟨e, he, by simp [hsome]⟩

/-- A declaration is marked just when a decorator of its statement uses a marker. -/
theorem isMarked_iff {d : Declaration} (hmarkers : d.markers = markersOf scope st.decorators) :
    isMarked d = true ↔ HasMarker scope st := by
  rw [isMarked, Bool.not_eq_true', List.isEmpty_eq_false_iff, hmarkers, markersOf_ne_nil_iff,
    HasMarker]

/-! ### What is around a body -/

/-- Hidden are the names that start with an underscore. -/
theorem visibilityOf_eq_hidden_iff {name : String} :
    visibilityOf name = .hidden ↔ name.toList.head? = some '_' := by
  rw [visibilityOf]
  split
  · rename_i h
    exact iff_of_true rfl h
  · rename_i h
    exact iff_of_false (by simp) h

theorem ofDottedParts_append {left right : List String} (hleft : left ≠ []) (hright : right ≠ []) :
    ofDottedParts (left ++ right) = ofDottedParts left ++ "." ++ ofDottedParts right :=
  String.intercalate_append_of_ne_nil hleft hright

theorem ofDottedParts_concat {parts : List String} (hparts : parts ≠ []) (name : String) :
    ofDottedParts (parts ++ [name]) = ofDottedParts parts ++ "." ++ name := by
  rw [ofDottedParts_append hparts (List.cons_ne_nil _ _)]
  exact congrArg _ String.intercalate_singleton

namespace Surroundings

/-- What a body is in whose statements stand inside some others. -/
def inside (scope : Scope) (path : String) (around : List Stmt) : Surroundings where
  scope := scope
  sourceFile := path
  path := ofDottedParts (scope.module :: around.flatMap Stmt.nameParts)
  inClass := around.getLast?.any Stmt.isClass
  inFunction := around.any Stmt.isFunction
  inHidden := around.any Stmt.isHiddenClass

/-- A full name starts at the module and goes through the classes around. -/
theorem fullName_inside (name : String) : (inside scope path around).fullName name =
    ofDottedParts (scope.module :: (around.flatMap Stmt.nameParts ++ [name])) := by
  rw [fullName, ← List.cons_append, ofDottedParts_concat (List.cons_ne_nil _ _)]
  rfl

/-- Inside a class, the class is the last thing around. -/
theorem enterClass_inside (line : ℕ) (name : String) (bases : List Expr)
    (keywords : List (Option String × Expr)) (decorators : List Expr) (body : List Stmt) :
    (inside scope path around).enterClass name =
      inside scope path (around ++ [.classDef line name bases keywords decorators body]) := by
  rw [enterClass, fullName_inside]
  simp [inside, Stmt.nameParts, Stmt.isClass, Stmt.isFunction, Stmt.isHiddenClass, Stmt.name,
    ← visibilityOf_eq_hidden_iff]

/-- Inside a function, the function is the last thing around. -/
theorem enterFunction_inside (line : ℕ) (name : String) (isAsync : Bool) (parameters : Parameters)
    (decorators : List Expr) (body : List Stmt) :
    (inside scope path around).enterFunction name = inside scope path
      (around ++ [.functionDef line name isAsync parameters decorators body]) := by
  have hpath : ofDottedParts (scope.module :: (around.flatMap Stmt.nameParts ++ [name])) ++
      ".<locals>" =
      ofDottedParts (scope.module :: (around.flatMap Stmt.nameParts ++ [name, "<locals>"])) := by
    have hparts : scope.module :: (around.flatMap Stmt.nameParts ++ [name, "<locals>"]) =
        (scope.module :: (around.flatMap Stmt.nameParts ++ [name])) ++ ["<locals>"] := by
      rw [List.cons_append, List.append_assoc]
      rfl
    rw [hparts, ofDottedParts_concat (List.cons_ne_nil _ _), String.append_assoc]
    rfl
  rw [enterFunction, fullName_inside, hpath]
  simp [inside, Stmt.nameParts, Stmt.isClass, Stmt.isFunction, Stmt.isHiddenClass]

end Surroundings

open Surroundings (inside)

/-- The declaration that is made of a class says of it what the statement says. -/
theorem describesClass_classDeclaration (line : ℕ) (name : String) (bases : List Expr)
    (keywords : List (Option String × Expr)) (decorators : List Expr) (body : List Stmt) :
    DescribesClass scope path around (.classDef line name bases keywords decorators body)
      (classDeclaration (inside scope path around) line name bases keywords decorators body) where
  isClass := rfl
  name := by rw [classDeclaration, Surroundings.fullName_inside]; rfl
  visibility := by
    rw [classDeclaration, inside, ← List.any_eq_true, List.any_append]
    cases around.any Stmt.isHiddenClass with
    | false =>
      simp only [List.any_cons, List.any_nil, Bool.false_or, Bool.or_false, Stmt.isHiddenClass,
        Stmt.isClass, Stmt.name, Bool.true_and, Bool.false_eq_true, if_false]
      exact visibilityOf_eq_hidden_iff.trans decide_eq_true_iff.symm
    | true => simp
  isStatic := by simp [classDeclaration, inside]
  isNested := by
    rw [classDeclaration, inside]
    cases around.getLast? with
    | none => simp
    | some c => simp
  markers := rfl
  sourceFile := rfl
  line := rfl

/-- The declaration that is made of a function says of it what the statement says. -/
theorem describesFunction_functionDeclaration (line : ℕ) (name : String) (isAsync : Bool)
    (parameters : Parameters) (decorators : List Expr) (body : List Stmt) :
    DescribesFunction scope path (.functionDef line name isAsync parameters decorators body)
      (functionDeclaration (inside scope path []) line name decorators) where
  isFunction := rfl
  kind := rfl
  name := by rw [functionDeclaration, Surroundings.fullName_inside]; rfl
  visibility := visibilityOf_eq_hidden_iff
  markers := rfl
  sourceFile := rfl
  line := rfl

/-! ### Inside classes and functions -/

/-- The class that a statement is, if it is marked. -/
def markedClass (scope : Scope) (path : String) (around : List Stmt) : Stmt → List Declaration
  | .classDef line name bases keywords decorators body =>
    let d := classDeclaration (inside scope path around) line name bases keywords decorators body
    if isMarked d then [d] else []
  | _ => []

/-- Inside a statement come its own declaration, if it is marked, and then those of its body. -/
theorem markedInside_eq (around : List Stmt) (st : Stmt) :
    markedInside (inside scope path around) st = markedClass scope path around st ++
      allMarkedInside (inside scope path (around ++ [st])) st.body := by
  cases st with
  | classDef line name bases keywords decorators body =>
    rw [markedInside, Surroundings.enterClass_inside line name bases keywords decorators body,
      markedClass, List.filter_singleton, cond_eq_ite]
    rfl
  | functionDef line name isAsync parameters decorators body =>
    rw [markedInside,
      Surroundings.enterFunction_inside line name isAsync parameters decorators body]
    rfl
  | _ => rfl

/-- A marked class stands at a place. -/
def MarkedClassAt (scope : Scope) (body : List Stmt) (place : List ℕ) : Prop :=
  HoldsAt (fun _ st => HasMarker scope st ∧ st.isClass) body place

/-- A declaration describes the class that stands at a place of a body, which itself stands inside
some statements. -/
def DescribesClassAt (scope : Scope) (path : String) (around body : List Stmt) (place : List ℕ)
    (d : Declaration) : Prop :=
  HoldsAt (fun inner st => DescribesClass scope path (around ++ inner) st d) body place

/-- A class gives one declaration, at its own place, if it is marked. -/
theorem lists_markedClass (around : List Stmt) (first : Stmt) (rest : List Stmt) :
    Lists (fun place => place = [0] ∧ HasMarker scope first ∧ first.isClass)
      (DescribesClassAt scope path around (first :: rest))
      (markedClass scope path around first) := by
  cases first with
  | classDef line name bases keywords decorators body =>
    have hd : DescribesClass scope path around _ _ :=
      describesClass_classDeclaration line name bases keywords decorators body
    refine (Lists.ite fun _ => .direct ?_).congr fun place => and_congr_right fun _ => ?_
    · rw [isMarked_iff hd.markers]
      exact and_iff_left rfl
    · rw [List.append_nil]
      exact hd
  | _ => exact Lists.nil fun _ h => Bool.false_ne_true h.2.2

/-- The body of a statement is smaller than the list that the statement leads, which the walk into
it ends by. -/
theorem Stmt.sizeOf_body_lt (first : Stmt) (rest : List Stmt) :
    sizeOf first.body < sizeOf (first :: rest) := by
  cases first with
  | classDef | functionDef => simp [Stmt.body]; omega
  | _ => simp [Stmt.body]; omega

/-- What is found in a body is every marked class in it. -/
theorem lists_allMarkedInside (body around : List Stmt) :
    Lists (MarkedClassAt scope body) (DescribesClassAt scope path around body)
      (allMarkedInside (inside scope path around) body) := by
  match body with
  | [] => exact Lists.nil fun _ => HoldsAt.not_nil
  | first :: rest =>
    have hinner := lists_allMarkedInside first.body (around ++ [first])
    have hrest := lists_allMarkedInside rest around
    rw [allMarkedInside, markedInside_eq]
    have hlists := (lists_markedClass around first rest).cons hinner hrest (g := id) (f := id)
      (fun _ _ => Iff.rfl)
      (fun _ _ h => .inside (h.mono fun _ _ hd => by rwa [List.append_cons]))
      (fun _ _ h => .later h)
    rw [List.map_id, List.map_id] at hlists
    exact hlists
termination_by sizeOf body
decreasing_by
  · exact Stmt.sizeOf_body_lt first rest
  · simp only [List.cons.sizeOf_spec]
    omega

/-! ### Modules -/

/-- The class that a statement of the body of a module is. -/
def listedClass (scope : Scope) (path : String) : Stmt → List Declaration
  | .classDef line name bases keywords decorators body =>
    [classDeclaration (inside scope path []) line name bases keywords decorators body]
  | _ => []

/-- The mark of a statement of the body of a module, if it is marked. -/
def ownMark (scope : Scope) (path : String) (before : ℕ) : Stmt → List Marked
  | .classDef line name bases keywords decorators body =>
    let d := classDeclaration (inside scope path []) line name bases keywords decorators body
    if isMarked d then [.topLevel before] else []
  | .functionDef line name _ _ decorators _ =>
    let d := functionDeclaration (inside scope path []) line name decorators
    if isMarked d then [.own d] else []
  | _ => []

/-- A statement at the top level gives its class, its own mark, and the marked classes of its
body. -/
theorem declaredBy_eq (before : ℕ) (st : Stmt) :
    declaredBy (inside scope path []) before st = (listedClass scope path st,
      ownMark scope path before st ++
        (allMarkedInside (inside scope path [st]) st.body).map .own) := by
  cases st with
  | classDef line name bases keywords decorators body =>
    rw [declaredBy, Surroundings.enterClass_inside line name bases keywords decorators body]
    rfl
  | functionDef line name isAsync parameters decorators body =>
    rw [declaredBy, Surroundings.enterFunction_inside line name isAsync parameters decorators body,
      List.filter_singleton, cond_eq_ite, List.map_append, apply_ite (List.map Marked.own)]
    rfl
  | _ => rfl

/-- A class at the top level is listed once, and nothing else is. -/
theorem length_listedClass (st : Stmt) :
    (listedClass scope path st).length = [st].countP Stmt.isClass := by
  cases st with
  | _ => rfl

/-- What is listed of a statement at the top level describes it. -/
theorem forall₂_listedClass (st : Stmt) : List.Forall₂ (DescribesClass scope path [])
    ([st].filter Stmt.isClass) (listedClass scope path st) := by
  cases st with
  | classDef line name bases keywords decorators body =>
    exact .cons (describesClass_classDeclaration line name bases keywords decorators body) .nil
  | _ => exact .nil

/-- A mark, with more classes before it. -/
def Marked.after (before : ℕ) : Marked → Marked
  | .topLevel index => .topLevel (before + index)
  | .own d => .own d

/-- With more classes in front the marks count from further on. -/
theorem ownMark_after (before more : ℕ) (st : Stmt) :
    ownMark scope path (before + more) st = (ownMark scope path more st).map (.after before) := by
  cases st with
  | classDef | functionDef => simp only [ownMark]; split <;> rfl
  | _ => rfl

/-- With more classes in front all marks of a body count from further on, and the classes stay the
same. -/
theorem declaredByAll_after (before more : ℕ) (body : List Stmt) :
    declaredByAll (inside scope path []) (before + more) body =
      ((declaredByAll (inside scope path []) more body).1,
        (declaredByAll (inside scope path []) more body).2.map (.after before)) := by
  induction body generalizing more with
  | nil => rfl
  | cons st rest ih =>
    simp only [declaredByAll, declaredBy_eq, Nat.add_assoc, ih, ownMark_after, List.map_append,
      List.map_map]
    rfl

/-- A mark for a place of the rest of a body is for a later place of the body. -/
theorem MarkFor.later {classes : List Declaration} {mark : Marked}
    (h : MarkFor scope path rest classes place mark) :
    MarkFor scope path (first :: rest) (listedClass scope path first ++ classes) (later place)
      (mark.after (listedClass scope path first).length) := by
  cases h with
  | @topLevel index st d hst hlisted hd =>
    have hcount : (listedClass scope path first).length + (rest.take index).countP Stmt.isClass =
        ((first :: rest).take (index + 1)).countP Stmt.isClass := by
      rw [length_listedClass, List.take_succ_cons, ← List.countP_append]
      rfl
    rw [Marked.after, hcount]
    refine .topLevel hst ?_ hd
    rw [← hcount, List.getElem?_append_right (Nat.le_add_right _ _), Nat.add_sub_cancel_left]
    exact hlisted
  | inside hst hd =>
    cases hst with
    | inside houter hst => exact .inside (.inside houter hst) hd
  | function hst hd => exact .function hst hd

/-- The mark of a statement at the top level stands at its own place, for a marked class or
function. -/
theorem lists_ownMark (first : Stmt) (rest : List Stmt) (classes : List Declaration) :
    Lists (fun place => place = [0] ∧ HasMarker scope first ∧
        (first.isClass ∨ ([] : List Stmt) = [] ∧ first.isFunction))
      (MarkFor scope path (first :: rest) (listedClass scope path first ++ classes))
      (ownMark scope path 0 first) := by
  cases first with
  | classDef line name bases keywords decorators body =>
    have hd : DescribesClass scope path [] _ _ :=
      describesClass_classDeclaration line name bases keywords decorators body
    refine (Lists.ite fun _ => .topLevel rfl rfl hd).congr fun place => and_congr_right fun _ => ?_
    rw [isMarked_iff hd.markers]
    exact and_iff_left (Or.inl rfl)
  | functionDef line name isAsync parameters decorators body =>
    have hd : DescribesFunction scope path _ _ :=
      describesFunction_functionDeclaration line name isAsync parameters decorators body
    refine (Lists.ite fun _ => .function rfl hd).congr fun place => and_congr_right fun _ => ?_
    rw [isMarked_iff hd.markers]
    exact and_iff_left (Or.inr ⟨rfl, rfl⟩)
  | _ => exact Lists.nil fun _ h => by simp [Stmt.isClass, Stmt.isFunction] at h

/-- A body gives its classes in order, and its marks in the order of the places where they stand.
The induction goes statement by statement: what a statement gives comes before all that is
later. -/
theorem finds_declaredByAll (body : List Stmt) :
    List.Forall₂ (DescribesClass scope path []) (body.filter Stmt.isClass)
        (declaredByAll (inside scope path []) 0 body).1 ∧
      Lists (MarkedAt scope body)
        (MarkFor scope path body (declaredByAll (inside scope path []) 0 body).1)
        (declaredByAll (inside scope path []) 0 body).2 := by
  induction body with
  | nil => exact ⟨.nil, Lists.nil fun _ => HoldsAt.not_nil⟩
  | cons first rest ih =>
    obtain ⟨hclasses, hmarks⟩ := ih
    simp only [declaredByAll, declaredBy_eq, Nat.zero_add]
    rw [← Nat.add_zero (listedClass scope path first).length, declaredByAll_after]
    constructor
    · have hsplit : (first :: rest).filter Stmt.isClass =
          [first].filter Stmt.isClass ++ rest.filter Stmt.isClass :=
        List.filter_append [first] rest
      rw [hsplit]
      exact List.rel_append (forall₂_listedClass first) hclasses
    · refine (lists_ownMark first rest _).cons (lists_allMarkedInside first.body [first]) hmarks
        ?_ ?_
        fun _ _ => .later
      · simp
      · rintro place d ⟨inner, st, hst, hd⟩
        exact .inside (.inside rfl hst) hd

/-- A module with a body finds what is in the body. -/
theorem DeclaringModule.finds_ofBody (name package path : String) (body : List Stmt) :
    Finds (.ofBody name package body) body (.ofBody name package path body) := by
  obtain ⟨htopLevel, hmarked⟩ :
    _ ∧ Lists (MarkedAt (.ofBody name package body) body) (MarkFor _ path body _) _ :=
    finds_declaredByAll body
  exact ⟨htopLevel, hmarked⟩

/-- A file **has a body** when its text has the structure of the body. -/
def HasBody (tree : FileTree) (file : Path) (body : List Stmt) : Prop :=
  ∃ text, tree.readTextLossy file = .ok text ∧ parse text = .ok body

/-- What a file with a body declares is what the body declares. -/
theorem HasBody.declaredInFile_eq {tree : FileTree} {file root : Path} {name : String}
    {body : List Stmt} (hbody : HasBody tree file body) (hname : moduleName file root = .ok name) :
    ∃ relative, seenFrom file root = .ok relative ∧ declaredInFile tree file root =
      .ok (.ofBody name (packageOf file name) relative.toString body) := by
  obtain ⟨text, hread, hparse⟩ := hbody
  cases hrelative : seenFrom file root with
  | error fault =>
    rw [moduleName, hrelative] at hname
    exact absurd hname (by simp [bind, Except.bind])
  | ok relative =>
    refine ⟨relative, rfl, ?_⟩
    rw [declaredInFile, hname, hrelative, hread]
    simp only [bind, Except.bind, hparse]
    rfl

/-- **What a file declares.** A file with a body makes a module of its name. The module lists the
classes of the body in the order of the source, and, in the same order and each once, marks for
everything marked: the functions of the body, and the classes that stand in it at any depth of
classes and functions, described by what is around them. -/
theorem declaredInFile_finds {tree : FileTree} {file root : Path} {name : String}
    {body : List Stmt} (hname : moduleName file root = .ok name) (hbody : HasBody tree file body) :
    ∃ m, declaredInFile tree file root = .ok m ∧ m.name = name ∧ m.syntaxError = none ∧
      (seenFrom file root).map Path.toString = .ok m.path ∧
      Finds (.ofBody name (packageOf file name) body) body m := by
  obtain ⟨relative, hrelative, hdeclared⟩ := hbody.declaredInFile_eq hname
  rw [hrelative]
  exact ⟨_, hdeclared, rfl, rfl, rfl, DeclaringModule.finds_ofBody _ _ _ _⟩

/-- A text with a marked class in a private one. -/
def nestedText : String := "class _A:\n @index_for(A)\n class B: 0"

@[inherit_doc nestedText]
def nestedBody : List Stmt :=
  [.classDef 1 "_A" [] [] []
    [.classDef 3 "B" [] [] [.call 2 (.name 2 "index_for") [.name 2 "A"] []] [.other]]]

@[inherit_doc nestedText]
def nestedTree : FileTree := ⟨["r"], [(["r", "m.py"], .file nestedText.toUTF8)]⟩

set_option maxRecDepth 100000 in
/-- The marked class is found, though the class around it is not marked. -/
theorem declaredInFile_finds_of_nested_class :
    moduleName ⟨false, ["m.py"]⟩ .here = .ok "m" ∧
      HasBody nestedTree ⟨false, ["m.py"]⟩ nestedBody ∧
      ∃ m, declaredInFile nestedTree ⟨false, ["m.py"]⟩ .here = .ok m ∧
        MarkedAt (.ofBody "m" "" nestedBody) nestedBody [0, 0] ∧
        Finds (.ofBody "m" "" nestedBody) nestedBody m := by
  have hname : moduleName ⟨false, ["m.py"]⟩ .here = .ok "m" := rfl
  have hread : nestedTree.readTextLossy ⟨false, ["m.py"]⟩ = .ok nestedText := by cbv
  -- running the parser takes equations of functions on characters and octets that no single
  -- module of the library has, which is why the whole of it is imported
  have hparse : parse nestedText = .ok nestedBody := by cbv
  have hbody : HasBody nestedTree ⟨false, ["m.py"]⟩ nestedBody := ⟨_, hread, hparse⟩
  obtain ⟨m, hm, -, -, -, hfinds⟩ := declaredInFile_finds hname hbody
  refine ⟨hname, hbody, m, hm, ⟨_, _, .inside rfl (.direct rfl), ?_, Or.inl rfl⟩, hfinds⟩
  exact ⟨_, List.mem_singleton_self _, "index_for", by decide, .index, by decide⟩

end ProviderRegistry.Source
