import ProviderRegistry.Proofs.Source.Marked

/-!
# Names across relative imports

A class is named after the file that defines it, and in a file that imports it, by the dots and the
name of the import. Both ways lead to the same name (`resolve_imported_iff`), whatever the depth of
the files and whether they are packages or not, but for two cases. A package at the root has an
empty name, which its classes put a dot after and imports do not. And a package that is imported
from as a module of its own is declared under the name of the package.
-/

namespace ProviderRegistry.Source

/-! ### Relative imports -/

/-- A **part** of a dotted name. -/
def IsPart (part : String) : Prop := part ≠ "" ∧ '.' ∉ part.toList

instance (part : String) : Decidable (IsPart part) :=
  inferInstanceAs (Decidable (_ ∧ _))

/-- An import **from a relative module** in a file: the directory that its dots lead to, the way
from there to the file, and the name after the dots. -/
structure RelativeImport where
  base : List String
  /-- The directories that the dots climb out of. -/
  climbed : List String
  /-- The name of the file, without its suffix. -/
  stem : String
  module : Option String

namespace RelativeImport

/-- The file with the import, seen from the root. -/
def importer (i : RelativeImport) : List String := i.base ++ i.climbed ++ [i.stem ++ sourceSuffix]

/-- The number of dots. One leads to the directory of the file, each further one out of another. -/
def level (i : RelativeImport) : ℕ := i.climbed.length + 1

/-- The parts of the name after the dots. -/
def target (i : RelativeImport) : List String := (i.module.map dottedParts).getD []

/-- An import is **plain** when the name of its file and the directories that it climbs out of can
be parts of a dotted name, and nothing on the way has an empty name. -/
structure Plain (i : RelativeImport) : Prop where
  base : "" ∉ i.base
  climbed : ∀ part ∈ i.climbed, IsPart part
  stem : IsPart i.stem
  target : "" ∉ i.target

/-- A file that an import **designates**: one of the name that the target has, or a package of this
name. -/
inductive Designates (i : RelativeImport) : List String → Prop where
  | module {front : List String} {last : String} (htarget : i.target = front ++ [last]) :
    Designates i (i.base ++ front ++ [last ++ sourceSuffix])
  | package : Designates i (i.base ++ i.target ++ [packageFile])

end RelativeImport

/-- A file below a root. -/
def fileBelow (root : Path) (parts : List String) : Path := root.join ⟨false, parts⟩

/-- The names that a statement binds by importing. -/
def importedNames : Stmt → List String
  | .importModules names =>
    names.map fun imported =>
      imported.asName.getD (String.ofList (Text.beforeFirst '.' imported.name.toList))
  | .importFrom _ _ names =>
    (names.filter (·.name ≠ "*")).map fun imported => imported.asName.getD imported.name
  | _ => []

/-- An import **binds** a name in a body when it imports the name as it is, and no import that
comes later binds the name again. -/
def RelativeImport.Binds (i : RelativeImport) (C : String) (body : List Stmt) : Prop :=
  ∃ front before after back,
    body = front ++ .importFrom i.level i.module (before ++ ⟨C, none⟩ :: after) :: back ∧
      C ∉ importedNames (.importFrom i.level i.module after) ∧ C ∉ back.flatMap importedNames

/-! ### Dotted names -/

variable {parts front : List String} {part last : String}

/-- Only no parts give the empty name. -/
theorem ofDottedParts_eq_empty_iff (hparts : "" ∉ parts) :
    ofDottedParts parts = "" ↔ parts = [] := by
  cases parts with
  | nil => exact iff_of_true rfl rfl
  | cons part parts =>
    refine iff_of_false (fun h => ?_) (List.cons_ne_nil _ _)
    have hpart : part ≠ "" := fun heq => hparts (heq ▸ List.mem_cons_self)
    cases parts with
    | nil => exact hpart (by simpa [ofDottedParts] using h)
    | cons next parts =>
      rw [ofDottedParts, String.intercalate_cons_cons, String.append_eq_empty_iff,
        String.append_eq_empty_iff] at h
      exact hpart h.1.1

theorem ofDottedParts_map_ofList (pieces : List (List Char)) :
    ofDottedParts (pieces.map String.ofList) = String.ofList (Text.join '.' pieces) := by
  induction pieces with
  | nil => rfl
  | cons piece pieces ih =>
    cases pieces with
    | nil => simp [ofDottedParts, Text.join]
    | cons next pieces =>
      rw [Text.join_cons (List.cons_ne_nil _ _), String.ofList_append, String.ofList_cons, ← ih]
      simp [ofDottedParts, String.append_assoc]

/-- Taking a name apart and joining the parts leaves the name. -/
theorem ofDottedParts_dottedParts (name : String) : ofDottedParts (dottedParts name) = name := by
  rw [dottedParts, ofDottedParts_map_ofList, Text.join_split, String.ofList_toList]

/-- A dot between two names parts them. -/
theorem dottedParts_append (left right : String) :
    dottedParts (left ++ "." ++ right) = dottedParts left ++ dottedParts right := by
  simp [dottedParts, Text.split_append_sep]

theorem dottedParts_of_isPart (h : IsPart part) : dottedParts part = [part] := by
  simp [dottedParts, Text.split_of_notMem h.2]

/-- The package around a name is the name without its last part. -/
theorem enclosingName_concat (hlast : IsPart last) :
    enclosingName (ofDottedParts (front ++ [last])) = ofDottedParts front := by
  cases front with
  | nil => simp [enclosingName, ofDottedParts, Text.beforeLast?_of_notMem hlast.2]
  | cons part front =>
    rw [ofDottedParts_concat (List.cons_ne_nil _ _), enclosingName]
    simp [Text.beforeLast?_append _ hlast.2]

/-! ### Names of files -/

/-- A source file has the name of its module as its stem. -/
theorem stemAndSuffix_append (h : last ≠ "") :
    (Path.stemAndSuffix (last ++ sourceSuffix)).1 = last := by
  have hchars : (last ++ sourceSuffix).toList = last.toList ++ '.' :: ['p', 'y'] := by
    rw [String.toList_append]
    rfl
  have hne : last.toList ≠ [] := fun hnil => h (String.toList_eq_nil_iff.mp hnil)
  rw [Path.stemAndSuffix, hchars, Text.beforeLast?_append _ (by decide),
    Text.afterLast_append _ (by decide)]
  simp [hne]

variable {root : Path}

/-- The name of a module is that of the way to its file; a package has that of its directory. -/
theorem moduleName_fileBelow (h : last ≠ "") :
    moduleName (fileBelow root (front ++ [last ++ sourceSuffix])) root =
      .ok (ofDottedParts (if last = "__init__" then front else front ++ [last])) := by
  have hparts : (⟨false, front ++ [last ++ sourceSuffix]⟩ : Path).partsWithoutSuffix =
      front ++ [last] := by
    simp [Path.partsWithoutSuffix, stemAndSuffix_append h]
  rw [moduleName, seenFrom, fileBelow, Path.relativeTo?_join rfl]
  simp only [bind, Except.bind, hparts]
  simp [pure, Except.pure]

/-- The file of a package is the one source file called after `__init__`. -/
theorem append_sourceSuffix_eq_iff : last ++ sourceSuffix = packageFile ↔ last = "__init__" := by
  rw [show packageFile = "__init__" ++ sourceSuffix from rfl]
  exact String.append_left_inj _

/-- The package of a module is the directory of its file. -/
theorem packageOf_fileBelow (h : IsPart last) :
    packageOf (fileBelow root (front ++ [last ++ sourceSuffix]))
        (ofDottedParts (if last = "__init__" then front else front ++ [last])) =
      ofDottedParts front := by
  have hname : (fileBelow root (front ++ [last ++ sourceSuffix])).name = last ++ sourceSuffix := by
    simp [fileBelow, Path.name, Path.join]
  rw [packageOf, hname]
  simp only [append_sourceSuffix_eq_iff]
  by_cases hinit : last = "__init__"
  · rw [if_pos hinit, if_pos hinit]
  · rw [if_neg hinit, if_neg hinit, enclosingName_concat h]

/-! ### Names of imports -/

/-- The parts of a package, none for the empty name. -/
def packageParts (package : String) : List String :=
  if package = "" then [] else dottedParts package

/-- A package is named by its parts. -/
theorem ofDottedParts_packageParts (package : String) :
    ofDottedParts (packageParts package) = package := by
  rw [packageParts]
  split
  · rename_i hempty
    rw [hempty]
    rfl
  · exact ofDottedParts_dottedParts package

/-- A part is added to a package at its end. -/
theorem packageParts_concat (hfront : "" ∉ front) (hlast : IsPart last) :
    packageParts (ofDottedParts (front ++ [last])) =
      packageParts (ofDottedParts front) ++ [last] := by
  have hall : "" ∉ front ++ [last] := by
    rw [List.mem_append, List.mem_singleton]
    exact fun h => h.elim hfront hlast.1.symm
  have hne : ofDottedParts (front ++ [last]) ≠ "" := fun h => by
    simpa using (ofDottedParts_eq_empty_iff hall).mp h
  rw [packageParts, if_neg hne]
  by_cases hnil : front = []
  · -- the root has no name, and is no part
    rw [hnil]
    simpa [ofDottedParts, packageParts] using dottedParts_of_isPart hlast
  · have hfront' : ofDottedParts front ≠ "" := fun h =>
      hnil ((ofDottedParts_eq_empty_iff hfront).mp h)
    rw [ofDottedParts_concat hnil, dottedParts_append, dottedParts_of_isPart hlast, packageParts,
      if_neg hfront']

/-- Parts are added to a package at its end. -/
theorem packageParts_append {base climbed : List String} (hbase : "" ∉ base)
    (hclimbed : ∀ part ∈ climbed, IsPart part) :
    packageParts (ofDottedParts (base ++ climbed)) =
      packageParts (ofDottedParts base) ++ climbed := by
  induction climbed generalizing base with
  | nil => rw [List.append_nil, List.append_nil]
  | cons part climbed ih =>
    obtain ⟨hpart, hclimbed⟩ := List.forall_mem_cons.mp hclimbed
    have hbase' : "" ∉ base ++ [part] := by
      rw [List.mem_append, List.mem_singleton]
      exact fun h => h.elim hbase hpart.1.symm
    rw [List.append_cons, ih hbase' hclimbed, packageParts_concat hbase hpart, List.append_assoc]
    rfl

/-- Climbing out of the last directories leaves the others. -/
theorem climb_append (base climbed : List String) :
    Scope.climb (base ++ climbed) climbed.length = base := by
  rw [Scope.climb, List.length_append, if_pos (Nat.le_add_left _ _), Nat.add_sub_cancel,
    List.take_left]

/-- The module of a plain import has the name of the way from the root to it. -/
theorem absoluteModule_of_plain {i : RelativeImport} (hplain : i.Plain) :
    Scope.absoluteModule (ofDottedParts (i.base ++ i.climbed)) i.level i.module =
      ofDottedParts (i.base ++ i.target) := by
  have hparts := packageParts_append hplain.base hplain.climbed
  rw [packageParts] at hparts
  have hlevel : i.level ≠ 0 := Nat.succ_ne_zero _
  rw [Scope.absoluteModule, if_neg hlevel]
  -- what is climbed out of are the last parts of the package, so that those of the base are left
  simp only [hparts, RelativeImport.level, Nat.add_sub_cancel, climb_append]
  cases hmodule : i.module with
  | none =>
    simp [RelativeImport.target, hmodule, ofDottedParts_packageParts]
  | some module =>
    have htarget : i.target = dottedParts module := by simp [RelativeImport.target, hmodule]
    have hne : dottedParts module ≠ [] := by
      simpa [dottedParts] using Text.split_ne_nil module.toList
    rw [htarget, Option.toList_some]
    by_cases hbase : i.base = []
    · rw [hbase, List.nil_append, ofDottedParts_dottedParts]
      simp [packageParts, ofDottedParts]
    · have hbase' : packageParts (ofDottedParts i.base) ≠ [] := fun h => by
        have hempty := ofDottedParts_packageParts (ofDottedParts i.base)
        rw [h] at hempty
        exact hbase ((ofDottedParts_eq_empty_iff hplain.base).mp hempty.symm)
      rw [ofDottedParts_concat hbase', ofDottedParts_packageParts, ofDottedParts_append hbase hne,
        ofDottedParts_dottedParts]

/-! ### What an imported name stands for -/

/-- A statement binds the names that it imports. -/
theorem map_fst_bindings (package : String) (st : Stmt) :
    (Scope.bindings package st).map Prod.fst = importedNames st := by
  cases st with
  | importModules names =>
    rw [Scope.bindings, importedNames, List.map_map]
    refine List.map_congr_left fun imported _ => ?_
    simp only [Function.comp, Scope.bindModule]
    cases imported.asName with
    | none => rfl
    | some asName => rfl
  | importFrom level module names =>
    rw [Scope.bindings, importedNames]
    induction names with
    | nil => rfl
    | cons imported names ih =>
      by_cases hstar : imported.name = "*"
      · simp [Scope.bindMember?, hstar, ih]
      · simp [Scope.bindMember?, hstar, ih]
  | _ => rfl

/-- In a table that is read from its end, the last entry of a key counts. -/
theorem lookup_reverse {xs ys : List (String × String)} {key value : String}
    (h : key ∉ ys.map Prod.fst) : (xs ++ (key, value) :: ys).reverse.lookup key = some value := by
  have hnone : ys.reverse.lookup key = none := by
    refine List.lookup_eq_none_iff.mpr fun entry hentry => bne_iff_ne.mpr ?_
    rintro rfl
    exact h (List.mem_map_of_mem (List.mem_reverse.mp hentry))
  rw [List.reverse_append, List.reverse_cons, List.append_assoc, List.lookup_append, hnone]
  simp

/-- The name of a member of a module; the module without a name has no dot after it. -/
def memberName (module member : String) : String :=
  if module = "" then member else module ++ "." ++ member

/-- A body **imports** a member of a module under some name when a statement of it does so and no
later one binds the name again by importing. -/
def ImportsMember (body : List Stmt) (level : ℕ) (module : Option String)
    (imported : ImportedName) : Prop :=
  imported.name ≠ "*" ∧ ∃ front before after back,
    body = front ++ .importFrom level module (before ++ imported :: after) :: back ∧
      imported.asName.getD imported.name ∉ importedNames (.importFrom level module after) ∧
      imported.asName.getD imported.name ∉ back.flatMap importedNames

/-- What a name stands for that a body imports. -/
theorem ImportsMember.resolve {level : ℕ} {module : Option String} {imported : ImportedName}
    {body : List Stmt} (h : ImportsMember body level module imported)
    (hplain : '.' ∉ (imported.asName.getD imported.name).toList) (name package : String) :
    (Scope.ofBody name package body).resolve (imported.asName.getD imported.name) =
      memberName (Scope.absoluteModule package level module) imported.name := by
  obtain ⟨hstar, front, before, after, back, rfl, hafter, hback⟩ := h
  have hmember : Scope.bindMember? (Scope.absoluteModule package level module) imported =
      some (imported.asName.getD imported.name,
        memberName (Scope.absoluteModule package level module) imported.name) := by
    rw [Scope.bindMember?, if_neg hstar]
    rfl
  have hlater : imported.asName.getD imported.name ∉
      (Scope.bindings package (.importFrom level module after) ++
        back.flatMap (Scope.bindings package)).map Prod.fst := by
    rw [List.map_append, map_fst_bindings, List.map_flatMap, List.mem_append]
    simp only [map_fst_bindings]
    exact fun h => h.elim hafter hback
  rw [Scope.resolve, Text.beforeFirst_of_notMem hplain, Text.afterFirst?_of_notMem hplain,
    String.ofList_toList, Scope.resolveHead]
  simp only [Scope.ofBody, List.flatMap_append, List.flatMap_cons, Scope.bindings,
    List.filterMap_append, List.filterMap_cons_some hmember, List.append_assoc,
    List.cons_append] at hlater ⊢
  rw [← List.append_assoc, lookup_reverse hlater]

/-- What a class is called that is imported from a relative module. -/
theorem resolve_imported {i : RelativeImport} (hplain : i.Plain) {name C : String}
    {body : List Stmt} (hC : C ≠ "*" ∧ '.' ∉ C.toList) (hbinds : i.Binds C body) :
    (Scope.ofBody name (ofDottedParts (i.base ++ i.climbed)) body).resolve C =
      if i.base ++ i.target = [] then C else ofDottedParts (i.base ++ i.target) ++ "." ++ C := by
  have hall : "" ∉ i.base ++ i.target := by
    rw [List.mem_append]
    exact fun h => h.elim hplain.base hplain.target
  have himports : ImportsMember body i.level i.module ⟨C, none⟩ := ⟨hC.1, hbinds⟩
  have hresolve := himports.resolve hC.2 name (ofDottedParts (i.base ++ i.climbed))
  simp only [absoluteModule_of_plain hplain, memberName, ofDottedParts_eq_empty_iff hall]
    at hresolve
  exact hresolve

/-- What the classes of a module are called. -/
theorem names_topLevel (name package path : String) (body : List Stmt) :
    List.Forall₂ (fun st d => d.name = some (name ++ "." ++ st.name)) (body.filter Stmt.isClass)
      (DeclaringModule.ofBody name package path body).topLevel := by
  refine (DeclaringModule.finds_ofBody name package path body).topLevel.imp fun st d hd => ?_
  rw [hd.name]
  simp [Scope.ofBody, ofDottedParts]

/-- A name inside a package is not that of the package. -/
theorem ofDottedParts_concat_ne (hlast : last ≠ "") :
    ofDottedParts (front ++ [last]) ≠ ofDottedParts front := by
  by_cases hfront : front = []
  · rw [hfront]
    simpa [ofDottedParts] using hlast
  · rw [ofDottedParts_concat hfront]
    intro h
    have hlength := congrArg String.length h
    simp only [String.length_append] at hlength
    have hdot : ".".length = 1 := rfl
    omega

/-- The module in a file that an import designates has the name that the import has, unless it is
the file of a package and the import takes it for a module of its own. -/
theorem moduleName_of_designates {i : RelativeImport} (hplain : i.Plain) {definer : List String}
    (hdefiner : i.Designates definer) (root : Path) :
    ∃ name, moduleName (fileBelow root definer) root = .ok name ∧
      (name = ofDottedParts (i.base ++ i.target) ↔
        (definer.getLast? = some packageFile →
          definer = i.base ++ i.target ++ [packageFile])) := by
  have hfile : packageFile = "__init__" ++ sourceSuffix := rfl
  cases hdefiner with
  | @module front last htarget =>
    have hlast : last ≠ "" := fun h => hplain.target (by simp [htarget, h])
    refine ⟨_, moduleName_fileBelow hlast, ?_⟩
    rw [htarget, ← List.append_assoc]
    by_cases hinit : last = "__init__"
    · -- the import has one part more than the package
      rw [if_pos hinit, hinit, ← hfile]
      refine iff_of_false (ofDottedParts_concat_ne (by decide)).symm fun h => ?_
      simpa using congrArg List.length (h List.getLast?_concat)
    · rw [if_neg hinit]
      refine iff_of_true rfl fun h => ?_
      rw [List.getLast?_concat, Option.some.injEq, append_sourceSuffix_eq_iff] at h
      exact absurd h hinit
  | package =>
    rw [hfile]
    refine ⟨_, moduleName_fileBelow (by decide), ?_⟩
    rw [if_pos rfl]
    exact iff_of_true rfl fun _ => rfl

/-- **Imports agree with definitions.** A class that a file imports by a plain import from a
relative module, and by no later import again, has the name there that it has in the file that
the import designates, wherever the two files are and whatever else is in them. Only the file of a
package may be an exception: it is one when it is at the root, and when the import takes it for a
module of its own. -/
theorem resolve_imported_iff {tree : FileTree} {root : Path} {i : RelativeImport}
    {definer : List String} {C : String} {body body' : List Stmt} (hplain : i.Plain)
    (hdefiner : i.Designates definer) (hbody : HasBody tree (fileBelow root i.importer) body)
    (hbody' : HasBody tree (fileBelow root definer) body') (hC : C ≠ "*" ∧ '.' ∉ C.toList)
    (hbinds : i.Binds C body) :
    ∃ m m', declaredInFile tree (fileBelow root i.importer) root = .ok m ∧
      declaredInFile tree (fileBelow root definer) root = .ok m' ∧
      List.Forall₂
        (fun st d => st.name = C →
          (d.name = some ((Scope.ofBody m.name (packageOf (fileBelow root i.importer) m.name)
            body).resolve C) ↔
            (definer.getLast? = some packageFile →
              definer = i.base ++ i.target ++ [packageFile] ∧ definer ≠ [packageFile])))
        (body'.filter Stmt.isClass) m'.topLevel := by
  obtain ⟨name', hname', hagree⟩ := moduleName_of_designates hplain hdefiner root
  obtain ⟨_, -, hdeclared⟩ := hbody.declaredInFile_eq (moduleName_fileBelow hplain.stem.1)
  obtain ⟨_, -, hdeclared'⟩ := hbody'.declaredInFile_eq hname'
  refine ⟨_, _, hdeclared, hdeclared', ?_⟩
  refine (names_topLevel name' _ _ body').imp fun st d hd hst => ?_
  rw [hd, hst]
  simp only [DeclaringModule.ofBody, RelativeImport.importer, packageOf_fileBelow hplain.stem,
    resolve_imported hplain hC hbinds, Option.some.injEq]
  by_cases hhome : i.base ++ i.target = []
  · -- the package at the root, whose classes have a dot before their names
    have hdefiner' : definer = [packageFile] := by
      obtain ⟨hbase, htarget⟩ := List.append_eq_nil_iff.mp hhome
      cases hdefiner with
      | module h => simp [htarget] at h
      | package => rw [hhome]; rfl
    rw [if_pos hhome]
    refine iff_of_false (fun h => ?_) fun h => (h (by rw [hdefiner']; rfl)).2 hdefiner'
    have hlength := congrArg String.length h
    simp at hlength
  · rw [if_neg hhome, String.append_left_inj, String.append_left_inj, hagree]
    refine imp_congr_right fun _ => (and_iff_left_of_imp fun h h' => ?_).symm
    rw [h'] at h
    exact hhome (List.self_eq_append_left.mp h)

/-! ### Packages at the root and below -/

/-- A file that imports from the package that it is in. The package is below the root, or it is the
root itself. -/
def fromPackage : RelativeImport := ⟨["p"], [], "g", none⟩

@[inherit_doc fromPackage]
def fromRoot : RelativeImport := ⟨[], [], "g", none⟩

/-- The body of a module that imports a class from its package, and of the package. -/
def importing : List Stmt := [.importFrom 1 none [⟨"C", none⟩]]

@[inherit_doc importing]
def defining : List Stmt := [.classDef 1 "C" [] [] [] [.other]]

/-- A tree with the two modules in a directory. -/
def twoFiles (directory : Location) : FileTree where
  cwd := []
  nodes := [
    (directory, .directory),
    (directory ++ ["g.py"], .file "from . import C".toUTF8),
    (directory ++ ["__init__.py"], .file "class C: 0".toUTF8)]

set_option maxRecDepth 100000 in
theorem parse_importing : parse "from . import C" = .ok importing := by cbv

set_option maxRecDepth 100000 in
theorem parse_defining : parse "class C: 0" = .ok defining := by cbv

/-- A class that is imported from a package below the root is the one that the package defines. -/
theorem resolve_imported_iff_of_package :
    fromPackage.Plain ∧ fromPackage.Designates ["p", "__init__.py"] ∧
      fromPackage.Binds "C" importing ∧
      HasBody (twoFiles ["p"]) (fileBelow .here fromPackage.importer) importing ∧
      HasBody (twoFiles ["p"]) (fileBelow .here ["p", "__init__.py"]) defining ∧
      ∃ m m',
        declaredInFile (twoFiles ["p"]) (fileBelow .here fromPackage.importer) .here = .ok m ∧
        declaredInFile (twoFiles ["p"]) (fileBelow .here ["p", "__init__.py"]) .here = .ok m' ∧
        ∃ d ∈ m'.topLevel, d.name = some ((Scope.ofBody m.name
          (packageOf (fileBelow .here fromPackage.importer) m.name) importing).resolve "C") := by
  have hplain : fromPackage.Plain := ⟨by decide, by decide, by decide, by decide⟩
  have hdefiner : fromPackage.Designates ["p", "__init__.py"] := .package
  have hread : (twoFiles ["p"]).readTextLossy (fileBelow .here fromPackage.importer) =
      .ok "from . import C" := by cbv
  have hread' : (twoFiles ["p"]).readTextLossy (fileBelow .here ["p", "__init__.py"]) =
      .ok "class C: 0" := by cbv
  have hbody : HasBody (twoFiles ["p"]) _ importing := ⟨_, hread, parse_importing⟩
  have hbody' : HasBody (twoFiles ["p"]) _ defining := ⟨_, hread', parse_defining⟩
  have hbinds : fromPackage.Binds "C" importing :=
    ⟨[], [], [], [], rfl, List.not_mem_nil, List.not_mem_nil⟩
  obtain ⟨m, m', hm, hm', hall⟩ :=
    resolve_imported_iff hplain hdefiner hbody hbody' (by decide) hbinds
  have hclasses : defining.filter Stmt.isClass = [.classDef 1 "C" [] [] [] [.other]] := rfl
  rw [hclasses] at hall
  obtain ⟨d, ds, hd, -, htopLevel⟩ := List.forall₂_cons_left_iff.mp hall
  refine ⟨hplain, hdefiner, hbinds, hbody, hbody', m, m', hm, hm', d, ?_, ?_⟩
  · rw [htopLevel]
    exact List.mem_cons_self
  · exact (hd rfl).mpr fun _ => ⟨rfl, by decide⟩

/-- A class that is imported from the package at the root is called otherwise than the one that the
package defines. -/
theorem root_package_is_missed :
    fromRoot.Plain ∧ fromRoot.Designates ["__init__.py"] ∧ fromRoot.Binds "C" importing ∧
      HasBody (twoFiles []) (fileBelow .here fromRoot.importer) importing ∧
      HasBody (twoFiles []) (fileBelow .here ["__init__.py"]) defining ∧
      ∃ m m', declaredInFile (twoFiles []) (fileBelow .here fromRoot.importer) .here = .ok m ∧
        declaredInFile (twoFiles []) (fileBelow .here ["__init__.py"]) .here = .ok m' ∧
        m'.topLevel.map Declaration.name = [some ".C"] ∧
        (Scope.ofBody m.name (packageOf (fileBelow .here fromRoot.importer) m.name)
          importing).resolve "C" = "C" := by
  have hread : (twoFiles []).readTextLossy (fileBelow .here fromRoot.importer) =
      .ok "from . import C" := by cbv
  have hread' : (twoFiles []).readTextLossy (fileBelow .here ["__init__.py"]) =
      .ok "class C: 0" := by cbv
  have hbody : HasBody (twoFiles []) _ importing := ⟨_, hread, parse_importing⟩
  have hbody' : HasBody (twoFiles []) _ defining := ⟨_, hread', parse_defining⟩
  have hname : moduleName (fileBelow .here fromRoot.importer) .here = .ok "g" := rfl
  have hname' : moduleName (fileBelow .here ["__init__.py"]) .here = .ok "" := rfl
  obtain ⟨_, -, hm⟩ := hbody.declaredInFile_eq hname
  obtain ⟨_, -, hm'⟩ := hbody'.declaredInFile_eq hname'
  have hplain : fromRoot.Plain := ⟨by decide, by decide, by decide, by decide⟩
  have hbinds : fromRoot.Binds "C" importing :=
    ⟨[], [], [], [], rfl, List.not_mem_nil, List.not_mem_nil⟩
  refine ⟨hplain, .package, hbinds, hbody, hbody', _, _, hm, hm', rfl, ?_⟩
  change (Scope.ofBody "g" (packageOf (fileBelow .here fromRoot.importer) "g")
    importing).resolve "C" = "C"
  decide

end ProviderRegistry.Source
