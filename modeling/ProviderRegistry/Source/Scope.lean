import ProviderRegistry.Source.Tree
import ProviderRegistry.Text.Split

/-!
# Scopes

What the names of a module stand for: what its body imports, and the classes that it declares.
Imports from a relative module climb from the package of the module, one step less than there are
dots.
-/

namespace ProviderRegistry.Source

/-- The parts of a dotted name. -/
def dottedParts (name : String) : List String := (Text.split '.' name.toList).map String.ofList

/-- Parts joined by dots. -/
def ofDottedParts (parts : List String) : String := ".".intercalate parts

/-- The name without its last part, empty where it has one part only. -/
def enclosingName (name : String) : String :=
  ((Text.beforeLast? '.' name.toList).map String.ofList).getD ""

/-- What the names of a module stand for. Later imports come first. -/
structure Scope where
  module : String
  package : String
  imports : List (String × String)
  classes : List String

namespace Scope

/-- The parts of a package that are left after climbing out of some of them. Climbing too far
counts what is missing from the end again. -/
def climb (package : List String) (steps : Nat) : List String :=
  if steps ≤ package.length then package.take (package.length - steps)
  else package.take (2 * package.length - steps)

/-- The full name of the module that an import names by a level and a name. -/
def absoluteModule (package : String) (level : Nat) (module : Option String) : String :=
  if level = 0 then module.getD ""
  else
    let parts := if package = "" then [] else dottedParts package
    ofDottedParts (climb parts (level - 1) ++ module.toList)

/-- The name that an import of a module binds, with what it stands for. -/
def bindModule (imported : ImportedName) : String × String :=
  match imported.asName with
  | some asName => (asName, imported.name)
  | none =>
    let head := String.ofList (Text.beforeFirst '.' imported.name.toList)
    (head, head)

/-- The name that an import from a module binds, with what it stands for. A star binds none. -/
def bindMember? (module : String) (imported : ImportedName) : Option (String × String) :=
  if imported.name = "*" then none
  else
    let target := if module = "" then imported.name else module ++ "." ++ imported.name
    some (imported.asName.getD imported.name, target)

/-- What one statement binds by importing. -/
def bindings (package : String) : Stmt → List (String × String)
  | .importModules names => names.map bindModule
  | .importFrom level module names =>
    names.filterMap (bindMember? (absoluteModule package level module))
  | _ => []

/-- The class that a statement declares. -/
def className? : Stmt → Option String
  | .classDef _ name .. => some name
  | _ => none

/-- The scope of a module with a body. -/
def ofBody (module package : String) (body : List Stmt) : Scope where
  module := module
  package := package
  imports := (body.flatMap (bindings package)).reverse
  classes := body.filterMap className?

/-- What the first part of a name stands for. -/
def resolveHead (scope : Scope) (head : String) : String :=
  match scope.imports.lookup head with
  | some target => target
  | none => if head ∈ scope.classes then scope.module ++ "." ++ head else head

/-- What a dotted name stands for. -/
def resolve (scope : Scope) (name : String) : String :=
  let base := scope.resolveHead (String.ofList (Text.beforeFirst '.' name.toList))
  match Text.afterFirst? '.' name.toList with
  | none | some [] => base
  | some rest => base ++ "." ++ String.ofList rest

/-- What an expression stands for, if it is a dotted name. -/
def resolve? (scope : Scope) (e : Expr) : Option String := e.dotted?.map scope.resolve

end Scope

end ProviderRegistry.Source
