import ProviderRegistry.Proofs.Source.Linearization
import ProviderRegistry.Proofs.Source.Marked

/-!
# Which classes count as abstract

A class statement can say in three ways that its class is abstract: by a base, by a metaclass, and
by an abstract method in its body (`SaysAbstract`). Nothing else makes a class abstract in a round
(`service_judges_class_alone`). What a class inherits is followed through all modules for its
supertypes and its constructor, but an abstract method that nothing between the two classes defines
is not inherited, so a service that cannot be made is accepted
(`half_written_service_is_accepted`).
-/

namespace ProviderRegistry

/-! ### What a registry of services accepts -/

/-- A service is accepted when nothing speaks against it. -/
theorem Flavor.objection?_service_eq_none_iff {d : Declaration} :
    Flavor.service.objection? d = none ↔ d.kind = .plainClass ∧ d.visibility = .exposed ∧
      d.isStatic = true ∧ d.isAbstract = false ∧ d.hasNoargConstructor = true := by
  simp [objection?, firstObjection, List.find?_eq_none, Declaration.isPublic]

/-- A service is rejected as abstract when it is, and nothing that counts first speaks against
it. -/
theorem Flavor.objection?_service_eq_abstract_iff {d : Declaration} :
    Flavor.service.objection? d = some .abstractClass ↔ d.kind = .plainClass ∧
      d.visibility = .exposed ∧ d.isStatic = true ∧ d.isAbstract = true := by
  simp only [objection?, firstObjection, Declaration.isPublic, List.find?_cons]
  by_cases hkind : d.kind = .plainClass
  · by_cases hvisible : d.visibility = .exposed
    · cases hstatic : d.isStatic <;> cases habstract : d.isAbstract <;>
        cases hconstructor : d.hasNoargConstructor <;> simp [hkind, hvisible]
    · simp [hkind, hvisible]
  · simp [hkind]

namespace Source

/-! ### What a class statement says -/

/-- Some bases **name** one of some classes. -/
def NamesOneOf (scope : Scope) (bases : List Expr) (targets : List String) : Prop :=
  ∃ base ∈ bases, ∃ target ∈ targets, scope.resolve? base = some target

/-- A statement of a class body **leaves a method abstract** when it is a function under a
decorator that says so. -/
def LeavesAbstract (st : Stmt) : Prop :=
  st.isFunction ∧ ∃ decorator ∈ st.decorators, ∃ name ∈ abstractDecorators,
    decorator.dotted? = some name

/-- A class statement **says that it is a protocol** by one of its bases. -/
inductive SaysProtocol (scope : Scope) : Stmt → Prop
  | base {line : ℕ} {name : String} {bases : List Expr} {keywords : List (Option String × Expr)}
      {decorators : List Expr} {body : List Stmt} (h : NamesOneOf scope bases protocolBases) :
      SaysProtocol scope (.classDef line name bases keywords decorators body)

/-- A class statement **says that it is abstract** by one of its bases, by its metaclass, or by a
method in its body. -/
inductive SaysAbstract (scope : Scope) : Stmt → Prop
  | base {line : ℕ} {name : String} {bases : List Expr} {keywords : List (Option String × Expr)}
      {decorators : List Expr} {body : List Stmt}
      (h : NamesOneOf scope bases (protocolBases ++ abstractBases)) :
      SaysAbstract scope (.classDef line name bases keywords decorators body)
  | metaclass {line : ℕ} {name : String} {bases : List Expr}
      {keywords : List (Option String × Expr)} {decorators : List Expr} {body : List Stmt}
      {value : Expr} (hvalue : keywords.lookup (some "metaclass") = some value)
      (h : NamesOneOf scope [value] abstractMetaclasses) :
      SaysAbstract scope (.classDef line name bases keywords decorators body)
  | method {line : ℕ} {name : String} {bases : List Expr} {keywords : List (Option String × Expr)}
      {decorators : List Expr} {body : List Stmt} {method : Stmt} (hmethod : method ∈ body)
      (h : LeavesAbstract method) :
      SaysAbstract scope (.classDef line name bases keywords decorators body)

variable {scope : Scope} {path : String}

theorem namesOneOf_iff {bases : List Expr} {targets : List String} :
    (bases.filterMap scope.resolve?).any (· ∈ targets) = true ↔
      NamesOneOf scope bases targets := by
  simp only [List.any_eq_true, List.mem_filterMap, decide_eq_true_eq]
  constructor
  · rintro ⟨target, ⟨base, hbase, hresolve⟩, htarget⟩
    exact ⟨base, hbase, target, htarget, hresolve⟩
  · rintro ⟨base, hbase, target, htarget, hresolve⟩
    exact ⟨target, ⟨base, hbase, hresolve⟩, htarget⟩

theorem leavesAbstract_iff {st : Stmt} : isAbstractMethod st = true ↔ LeavesAbstract st := by
  cases st with
  | functionDef line name isAsync parameters decorators body =>
    simp only [isAbstractMethod, LeavesAbstract, Stmt.isFunction, Stmt.decorators, true_and,
      List.any_eq_true, Option.any_eq_true, decide_eq_true_eq]
    refine exists_congr fun decorator => and_congr_right fun _ => ?_
    exact exists_congr fun name => and_comm
  | _ => simp [isAbstractMethod, LeavesAbstract, Stmt.isFunction]

section Class

variable (s : Surroundings) (line : ℕ) (name : String) (bases : List Expr)
  (keywords : List (Option String × Expr)) (decorators : List Expr) (body : List Stmt)

theorem kind_classDeclaration_iff :
    (classDeclaration s line name bases keywords decorators body).kind = .plainClass ↔
      ¬ SaysProtocol s.scope (.classDef line name bases keywords decorators body) := by
  have hprotocol : SaysProtocol s.scope (.classDef line name bases keywords decorators body) ↔
      NamesOneOf s.scope bases protocolBases := ⟨fun | .base h => h, .base⟩
  rw [hprotocol, ← namesOneOf_iff, classDeclaration]
  split <;> simp_all

/-- **A class is abstract** just when its statement says so. -/
theorem isAbstract_classDeclaration_iff :
    (classDeclaration s line name bases keywords decorators body).isAbstract = true ↔
      SaysAbstract s.scope (.classDef line name bases keywords decorators body) := by
  have hbases : NamesOneOf s.scope bases (protocolBases ++ abstractBases) ↔
      NamesOneOf s.scope bases protocolBases ∨ NamesOneOf s.scope bases abstractBases := by
    simp only [NamesOneOf, List.mem_append, or_and_right, exists_or, and_or_left]
  have hmetaclass : (((keywords.lookup (some "metaclass")).bind s.scope.resolve?).any
      (· ∈ abstractMetaclasses)) = true ↔
      ∃ value, keywords.lookup (some "metaclass") = some value ∧
        NamesOneOf s.scope [value] abstractMetaclasses := by
    simp only [Option.any_eq_true, Option.bind_eq_some_iff, decide_eq_true_eq, NamesOneOf,
      List.mem_singleton, exists_eq_left]
    constructor
    · rintro ⟨target, ⟨value, hvalue, hresolve⟩, htarget⟩
      exact ⟨value, hvalue, target, htarget, hresolve⟩
    · rintro ⟨value, hvalue, target, htarget, hresolve⟩
      exact ⟨target, ⟨value, hvalue, hresolve⟩, htarget⟩
  have hmethods : body.any isAbstractMethod = true ↔ ∃ method ∈ body, LeavesAbstract method := by
    simp only [List.any_eq_true, leavesAbstract_iff]
  rw [classDeclaration, Bool.or_eq_true, Bool.or_eq_true, Bool.or_eq_true, namesOneOf_iff,
    namesOneOf_iff, hmetaclass, hmethods, ← hbases]
  constructor
  · rintro ((h | ⟨value, hvalue, h⟩) | ⟨method, hmethod, h⟩)
    · exact .base h
    · exact .metaclass hvalue h
    · exact .method hmethod h
  · rintro (h | ⟨hvalue, h⟩ | ⟨hmethod, h⟩)
    · exact Or.inl (Or.inl h)
    · exact Or.inl (Or.inr ⟨_, hvalue, h⟩)
    · exact Or.inr ⟨_, hmethod, h⟩

end Class

/-! ### Declarations that follow their statements -/

open Surroundings (inside)

/-- A declaration **follows its statement** in whatever a registry of services asks for and a class
does not inherit. -/
structure FollowsStatement (scope : Scope) (st : Stmt) (d : Declaration) : Prop where
  name : d.name = some (scope.module ++ "." ++ st.name)
  kind : d.kind = .plainClass ↔ ¬ SaysProtocol scope st
  visibility : d.visibility = .exposed ↔ st.name.toList.head? ≠ some '_'
  isStatic : d.isStatic = true
  isAbstract : d.isAbstract = true ↔ SaysAbstract scope st

theorem followsStatement_classDeclaration (line : ℕ) (name : String) (bases : List Expr)
    (keywords : List (Option String × Expr)) (decorators : List Expr) (body : List Stmt) :
    FollowsStatement scope (.classDef line name bases keywords decorators body)
      (classDeclaration (inside scope path []) line name bases keywords decorators body) where
  name := rfl
  kind := kind_classDeclaration_iff ..
  visibility := by
    have hvisible : ∀ visibility : Visibility, visibility = .exposed ↔ ¬ visibility = .hidden :=
      fun visibility => by cases visibility <;> decide
    exact (hvisible _).trans (not_congr visibilityOf_eq_hidden_iff)
  isStatic := rfl
  isAbstract := isAbstract_classDeclaration_iff ..

/-- The classes of a body follow its class statements, one after the other. -/
theorem forall₂_followsStatement (before : ℕ) (body : List Stmt) :
    List.Forall₂ (FollowsStatement scope) (body.filter Stmt.isClass)
      (declaredByAll (inside scope path []) before body).1 := by
  induction body generalizing before with
  | nil => exact .nil
  | cons st rest ih =>
    have hfirst : List.Forall₂ (FollowsStatement scope) ([st].filter Stmt.isClass)
        (listedClass scope path st) := by
      cases st with
      | classDef => exact .cons (followsStatement_classDeclaration ..) .nil
      | _ => exact .nil
    have hsplit : (st :: rest).filter Stmt.isClass =
        [st].filter Stmt.isClass ++ rest.filter Stmt.isClass := List.filter_append [st] rest
    simp only [declaredByAll, declaredBy_eq]
    rw [hsplit]
    exact List.rel_append hfirst (ih _)

/-! ### Rounds -/

/-- A body that was read, with what its module and its file are called. -/
structure SourceBody where
  name : String
  package : String
  path : String
  body : List Stmt

/-- The module that a body makes. -/
def SourceBody.module (source : SourceBody) : DeclaringModule :=
  .ofBody source.name source.package source.path source.body

/-- The class statements of a body, each with what names stand for there. -/
def SourceBody.classes (source : SourceBody) : List (Scope × Stmt) :=
  (source.body.filter Stmt.isClass).map (.ofBody source.name source.package source.body, ·)

/-- What is related to some things is related to others that are the same in every respect that
counts. -/
private theorem forall₂_of_map_eq {α β γ : Type} {R S : α → β → Prop} {f : β → γ}
    (hrel : ∀ a b c, R a b → f c = f b → S a c) {as : List α} {bs cs : List β}
    (h : List.Forall₂ R as bs) (hmap : cs.map f = bs.map f) : List.Forall₂ S as cs := by
  induction h generalizing cs with
  | nil => exact List.map_eq_nil_iff.mp hmap ▸ .nil
  | cons hfirst _ ih =>
    obtain ⟨c, cs, rfl, hc, hcs⟩ := List.map_eq_cons_iff.mp hmap
    exact .cons (hrel _ _ c hfirst hc) (ih hcs)

/-- **The classes of a round** follow the class statements of all its bodies. -/
theorem forall₂_declarations_followStatements (sources : List SourceBody) :
    List.Forall₂ (fun cls d => FollowsStatement cls.1 cls.2 d) (sources.flatMap SourceBody.classes)
      (Round.ofModules (sources.map SourceBody.module)).declarations := by
  let kept (d : Declaration) := (d.name, d.kind, d.visibility, d.isStatic, d.isAbstract)
  have hparsed : List.Forall₂ (fun cls d => FollowsStatement cls.1 cls.2 d)
      (sources.flatMap SourceBody.classes)
      ((sources.map SourceBody.module).flatMap (·.topLevel)) := by
    induction sources with
    | nil => exact .nil
    | cons source sources ih =>
      rw [List.flatMap_cons, List.map_cons, List.flatMap_cons]
      refine List.rel_append ?_ ih
      rw [SourceBody.classes, List.forall₂_map_left_iff]
      exact forall₂_followsStatement 0 source.body
  have hkept : IgnoresInherited kept := fun _ _ _ => rfl
  refine forall₂_of_map_eq (fun cls d e hd he => ?_) hparsed (hkept.map_declarations_ofModules _)
  obtain ⟨hname, hkind, hvisibility, hstatic, habstract⟩ :
      e.name = d.name ∧ e.kind = d.kind ∧ e.visibility = d.visibility ∧ e.isStatic = d.isStatic ∧
        e.isAbstract = d.isAbstract := by
    simpa only [kept, Prod.mk.injEq] using he
  refine ⟨hname ▸ hd.name, hkind ▸ hd.kind, hvisibility ▸ hd.visibility, hstatic ▸ hd.isStatic,
    habstract ▸ hd.isAbstract⟩

theorem SaysProtocol.saysAbstract {st : Stmt} (h : SaysProtocol scope st) :
    SaysAbstract scope st := by
  obtain ⟨base, hbase, target, htarget, hresolve⟩ := h
  exact .base ⟨base, hbase, target, List.mem_append_left _ htarget, hresolve⟩

/-- **A registry of services judges a class alone.** Whatever the classes of a round inherit from
each other, one that is public and no protocol is rejected as abstract just when its own statement
says that it is, and accepted just when the statement does not and it can be made without
arguments. -/
theorem service_judges_class_alone (sources : List SourceBody) :
    List.Forall₂ (fun cls d => d.name = some (cls.1.module ++ "." ++ cls.2.name) ∧
        (Flavor.service.objection? d = some .abstractClass ↔ SaysAbstract cls.1 cls.2 ∧
          ¬ SaysProtocol cls.1 cls.2 ∧ cls.2.name.toList.head? ≠ some '_') ∧
        (Flavor.service.objection? d = none ↔ ¬ SaysAbstract cls.1 cls.2 ∧
          cls.2.name.toList.head? ≠ some '_' ∧ d.hasNoargConstructor = true))
      (sources.flatMap SourceBody.classes)
      (Round.ofModules (sources.map SourceBody.module)).declarations := by
  refine (forall₂_declarations_followStatements sources).imp fun cls d h => ⟨h.name, ?_, ?_⟩
  · rw [Flavor.objection?_service_eq_abstract_iff, h.kind, h.visibility, h.isAbstract,
      eq_true h.isStatic]
    tauto
  · rw [Flavor.objection?_service_eq_none_iff, h.kind, h.visibility, ← Bool.not_eq_true,
      h.isAbstract, eq_true h.isStatic]
    have hprotocol : ¬ SaysAbstract cls.1 cls.2 → ¬ SaysProtocol cls.1 cls.2 :=
      mt SaysProtocol.saysAbstract
    tauto

/-- A module with an abstract class and one that inherits from it and writes nothing. -/
def halfWritten : SourceBody where
  name := "m"
  package := ""
  path := "m.py"
  body := [
    .importFrom 0 (some "abc") [⟨"ABC", none⟩, ⟨"abstractmethod", none⟩],
    .classDef 4 "Port" [.name 4 "ABC"] [] []
      [.functionDef 6 "run" false { positional := [false] } [.name 5 "abstractmethod"] [.other]],
    .classDef 10 "Half" [.name 10 "Port"] [] [] [.other]]

/-- **A service that cannot be made is accepted.** Its base inherits from the class that makes
classes abstract and leaves a method abstract, and nothing defines the method. -/
theorem half_written_service_is_accepted :
    let scope : Scope := .ofBody "m" "" halfWritten.body
    let run : Stmt :=
      .functionDef 6 "run" false { positional := [false] } [.name 5 "abstractmethod"] [.other]
    scope.resolve? (.name 4 "ABC") = some "abc.ABC" ∧ LeavesAbstract run ∧
      (scope, .classDef 4 "Port" [.name 4 "ABC"] [] [] [run]) ∈ halfWritten.classes ∧
      (scope, .classDef 10 "Half" [.name 10 "Port"] [] [] [.other]) ∈ halfWritten.classes ∧
      directBases (parsed [halfWritten.module]) "m.Half" = ["m.Port"] ∧
      ∃ d ∈ (Round.ofModules [halfWritten.module]).declarations, d.name = some "m.Half" ∧
        d.supertypes = ["m.Port", "abc.ABC"] ∧ Flavor.service.objection? d = none := by
  intro scope run
  have hnames : ((parsed [halfWritten.module]).map Declaration.name).Nodup := by decide
  have hbelow : IsPreorder (directBases (parsed [halfWritten.module]))
      (basesIn [("m.Port", ["abc.ABC"]), ("m.Half", ["m.Port", "abc.ABC"])]) :=
    isPreorder_of_table (by decide) (by decide)
  let half : Declaration :=
    { name := some "m.Half", supertypes := ["m.Port"], sourceFile := "m.py", line := 10 }
  have hhalf : half ∈ parsed [halfWritten.module] := by decide
  have hshown := mem_shown_of_inherits hnames hbelow hhalf rfl rfl
  have hdeclared := (List.mem_append.mp hshown).resolve_right List.not_mem_nil
  refine ⟨by decide, ⟨rfl, .name 5 "abstractmethod", by simp [run, Stmt.decorators], _, ?_, rfl⟩,
    ?_, ?_, by decide, _, hdeclared, rfl, ?_, ?_⟩
  · decide
  · exact List.mem_cons_self
  · exact List.mem_cons_of_mem _ List.mem_cons_self
  · decide
  · decide

end Source

end ProviderRegistry
