import Mathlib.Order.Nat
import ProviderRegistry.Proofs.Source.Imports

/-!
# How far relative imports climb

The first dot of a relative import stands for the package of the importing module, and each further
dot climbs out of one part of it. An import that does not climb further than the package goes keeps
the parts that are left (`resolve_from_relative_module`): the more dots it has, the fewer parts.

An import that climbs further finds no package to name, but some parts are kept all the same: they
are counted from the wrong end, and it takes as many steps again until none is left
(`keptParts_eq_take_iff`). Until then the import names a module around the importing one, which may
well be there (`import_beyond_top_comes_back`).
-/

namespace ProviderRegistry.Source

variable {parts : List String} {steps steps' : ℕ}

/-! ### Climbing out of parts -/

namespace Scope

theorem climb_of_le (h : steps ≤ parts.length) :
    climb parts steps = parts.take (parts.length - steps) :=
  if_pos h

/-- Whatever is kept are the first parts. -/
theorem climb_prefix_parts (parts : List String) (steps : ℕ) : climb parts steps <+: parts := by
  rw [climb]
  split
  · exact List.take_prefix _ parts
  · exact List.take_prefix _ parts

theorem length_climb (parts : List String) (steps : ℕ) : (climb parts steps).length =
    if steps ≤ parts.length then parts.length - steps else 2 * parts.length - steps := by
  rw [climb]
  split
  · rw [List.length_take]
    omega
  · rw [List.length_take]
    omega

/-- First parts are told apart by their number. -/
theorem climb_eq_take_iff :
    climb parts steps = parts.take (parts.length - steps) ↔
      steps ≤ parts.length ∨ 2 * parts.length ≤ steps := by
  have hlength : climb parts steps = parts.take (parts.length - steps) ↔
      (climb parts steps).length = parts.length - steps := by
    constructor
    · intro h
      rw [h, List.length_take]
      omega
    · intro h
      rw [List.prefix_iff_eq_take.mp (climb_prefix_parts parts steps), h]
  rw [hlength, length_climb]
  split <;> omega

/-- More steps leave fewer parts, as long as there are parts to climb out of. -/
theorem climb_prefix_climb (h : steps ≤ steps') (hsteps' : steps' ≤ parts.length) :
    climb parts steps' <+: climb parts steps := by
  rw [climb_of_le hsteps', climb_of_le (h.trans hsteps')]
  exact List.take_prefix_take_left (by omega)

end Scope

/-! ### What is imported -/

/-- The parts of a package that an import of some level **keeps**: the first ones, all but one for
each dot after the first, and where the package has too few, as many as it has twice over. -/
def keptParts (package : String) (level : ℕ) : List String :=
  let parts := packageParts package
  if level ≤ parts.length + 1 then parts.take (parts.length + 1 - level)
  else parts.take (2 * parts.length + 1 - level)

variable {package : String} {level level' : ℕ}

theorem climb_packageParts (hlevel : 0 < level) :
    Scope.climb (packageParts package) (level - 1) = keptParts package level := by
  have hsteps : level - 1 ≤ (packageParts package).length ↔
      level ≤ (packageParts package).length + 1 := by omega
  rw [Scope.climb, keptParts]
  simp only [hsteps]
  split
  · congr 1
    omega
  · congr 1
    omega

/-- What is kept is what should be just when the import stays in the package or climbs so far out
of it that nothing is kept. -/
theorem keptParts_eq_take_iff (hlevel : 0 < level) :
    keptParts package level =
        (packageParts package).take ((packageParts package).length - (level - 1)) ↔
      level ≤ (packageParts package).length + 1 ∨ 2 * (packageParts package).length < level := by
  rw [← climb_packageParts hlevel, Scope.climb_eq_take_iff]
  omega

/-- **How far an import climbs.** A name that a module imports from a relative module stands for
the member of the module that is named by the kept parts of the package and the name after the
dots. Up to the level that leaves nothing of the package, these are its first parts, all but one
for each dot after the first, and a higher level keeps no more of them. On the levels after that
some of the parts are kept again, until there are twice as many dots as parts. -/
theorem resolve_from_relative_module {body : List Stmt} {module : Option String}
    {imported : ImportedName} (hlevel : 0 < level)
    (himports : ImportsMember body level module imported)
    (hplain : '.' ∉ (imported.asName.getD imported.name).toList) (name package : String) :
    (Scope.ofBody name package body).resolve (imported.asName.getD imported.name) =
        memberName (ofDottedParts (keptParts package level ++ module.toList)) imported.name ∧
      (keptParts package level =
          (packageParts package).take ((packageParts package).length - (level - 1)) ↔
        level ≤ (packageParts package).length + 1 ∨ 2 * (packageParts package).length < level) ∧
      (level ≤ (packageParts package).length + 1 → ∀ level' ≤ level, 0 < level' →
        keptParts package level <+: keptParts package level') ∧
      ((packageParts package).length + 1 < level → level ≤ 2 * (packageParts package).length →
        keptParts package level ≠ [] ∧ keptParts package level <+: packageParts package) := by
  refine ⟨?_, keptParts_eq_take_iff hlevel, fun hin level' hle hlevel' => ?_,
    fun hover hunder => ?_⟩
  · have habsolute : Scope.absoluteModule package level module =
        ofDottedParts (keptParts package level ++ module.toList) := by
      rw [Scope.absoluteModule, if_neg hlevel.ne', ← climb_packageParts hlevel]
      rfl
    rw [himports.resolve hplain, habsolute]
  · rw [← climb_packageParts hlevel, ← climb_packageParts hlevel']
    exact Scope.climb_prefix_climb (Nat.sub_le_sub_right hle 1) (by omega)
  · rw [← climb_packageParts hlevel]
    refine ⟨List.ne_nil_of_length_pos ?_, Scope.climb_prefix_parts _ _⟩
    rw [Scope.length_climb, if_neg (by omega)]
    omega

/-- The parent of a package, and a member that gets another name. -/
theorem resolve_from_relative_module_of_parent :
    let body : List Stmt := [.importFrom 2 (some "m") [⟨"C", some "D"⟩]]
    ImportsMember body 2 (some "m") ⟨"C", some "D"⟩ ∧ '.' ∉ "D".toList ∧
      (Scope.ofBody "a.b.g" "a.b" body).resolve "D" = "a.m.C" := by
  intro body
  have himports : ImportsMember body 2 (some "m") ⟨"C", some "D"⟩ :=
    ⟨by decide, [], [], [], [], rfl, List.not_mem_nil, List.not_mem_nil⟩
  have hplain : '.' ∉ "D".toList := by decide
  have hkept : keptParts "a.b" 2 = ["a"] := by decide
  refine ⟨himports, hplain, ?_⟩
  have hresolve := (resolve_from_relative_module (by decide) himports hplain "a.b.g" "a.b").1
  rw [hkept] at hresolve
  exact hresolve

/-- A module that imports from beyond the package at the top. -/
def beyondText : String := "from ....m import C"

@[inherit_doc beyondText]
def beyondBody : List Stmt := [.importFrom 4 (some "m") [⟨"C", none⟩]]

@[inherit_doc beyondText]
def beyondTree : FileTree where
  cwd := []
  nodes := [
    (["a"], .directory),
    (["a", "b"], .directory),
    (["a", "b", "g.py"], .file beyondText.toUTF8)]

set_option maxRecDepth 100000 in
/-- **An import from beyond the top comes back** to a module inside of it: the package has two
parts, none is left after three steps, and one is kept. -/
theorem import_beyond_top_comes_back :
    let file : Path := ⟨false, ["a", "b", "g.py"]⟩
    HasBody beyondTree file beyondBody ∧ ImportsMember beyondBody 4 (some "m") ⟨"C", none⟩ ∧
      ∃ m, declaredInFile beyondTree file .here = .ok m ∧ packageOf file m.name = "a.b" ∧
        packageParts "a.b" = ["a", "b"] ∧
        memberName (ofDottedParts (["a", "b"].take (2 - (4 - 1)) ++ ["m"])) "C" = "m.C" ∧
        (Scope.ofBody m.name (packageOf file m.name) beyondBody).resolve "C" = "a.m.C" := by
  intro file
  have hname : moduleName file .here = .ok "a.b.g" := by rfl
  have hpackage : packageOf file "a.b.g" = "a.b" := by decide
  have hread : beyondTree.readTextLossy file = .ok beyondText := by cbv
  have hparse : parse beyondText = .ok beyondBody := by cbv
  have hbody : HasBody beyondTree file beyondBody := ⟨_, hread, hparse⟩
  obtain ⟨relative, -, hdeclared⟩ := hbody.declaredInFile_eq hname
  refine ⟨hbody, ⟨by decide, [], [], [], [], rfl, List.not_mem_nil, List.not_mem_nil⟩, _,
    hdeclared, hpackage, by decide, by decide, ?_⟩
  change (Scope.ofBody "a.b.g" (packageOf file "a.b.g") beyondBody).resolve "C" = "a.m.C"
  rw [hpackage]
  decide

end ProviderRegistry.Source
