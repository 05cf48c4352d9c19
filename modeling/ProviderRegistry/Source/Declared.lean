import ProviderRegistry.Declaration
import ProviderRegistry.Marker
import ProviderRegistry.Source.Scope

/-!
# What a module declares

The declarations of a module: the classes of its body, and everything that carries a marker, which
includes functions of its body and classes at any depth of classes and functions. What a class
inherits from is what its header names; the classes of other modules are not known here.
-/

namespace ProviderRegistry.Source

/-! ### Facts about one class or function -/

/-- The classes that make a class abstract when it inherits from them. -/
def abstractBases : List String := ["abc.ABC", "ABC"]

/-- The metaclasses that make a class abstract. -/
def abstractMetaclasses : List String := ["abc.ABCMeta", "ABCMeta"]

/-- The classes that make a class a protocol when it inherits from them. -/
def protocolBases : List String :=
  ["typing.Protocol", "typing_extensions.Protocol", "Protocol"]

/-- The decorators of abstract methods. -/
def abstractDecorators : List String := ["abstractmethod", "abc.abstractmethod"]

/-- Does a name keep what it names to itself? -/
def visibilityOf (name : String) : Visibility :=
  if name.toList.head? = some '_' then .hidden else .exposed

/-- Does a statement of a class body define an abstract method? -/
def isAbstractMethod : Stmt → Bool
  | .functionDef _ _ _ _ decorators _ =>
    decorators.any fun d => d.dotted?.any (· ∈ abstractDecorators)
  | _ => false

/-- Can a method be called with the object alone? At most one positional parameter may lack a
default, and no parameter that must be given by name may. -/
def Parameters.allowNoArgument (p : Parameters) : Bool :=
  let positional := p.positionalOnly ++ p.positional
  let required := positional.length - positional.countP id
  required ≤ 1 && p.keywordOnly.all id

/-- The parameters of the constructor that a statement of a class body defines. -/
def constructor? : Stmt → Option Parameters
  | .functionDef _ name false parameters _ _ => if name = "__init__" then some parameters else none
  | _ => none

/-- Can the constructor that a class body defines be called without arguments? It is `none` where
the body defines no constructor; the first one counts. -/
def ownConstructor? (body : List Stmt) : Option Bool :=
  (body.findSome? constructor?).map Parameters.allowNoArgument

/-- The marker that a decorator calls, and the targets that it names. -/
def markerCall? (scope : Scope) : Expr → Option (Marker × List String)
  | .call _ function arguments _ => do
    let name ← scope.resolve? function
    let marker ← Marker.ofName? (simpleName name)
    return (marker, arguments.filterMap scope.resolve?)
  | _ => none

/-- Adds targets to those of a marker. -/
def addTargets (markers : List (String × List (Option String))) (marker : Marker)
    (targets : List String) : List (String × List (Option String)) :=
  if markers.any (·.1 == marker.name) then
    markers.map fun entry =>
      if entry.1 == marker.name then (entry.1, entry.2 ++ targets.map some) else entry
  else markers ++ [(marker.name, targets.map some)]

/-- The markers of decorators, with the targets of each in order. -/
def markersOf (scope : Scope) (decorators : List Expr) : List (String × List (Option String)) :=
  (decorators.filterMap (markerCall? scope)).foldl
    (fun markers (marker, targets) => addTargets markers marker targets) []

/-! ### Declarations -/

/-- Where a body stands: the name that the names in it continue, and what it is inside of. -/
structure Surroundings where
  scope : Scope
  sourceFile : String
  path : String
  inClass : Bool
  inFunction : Bool
  /-- Some class around it is private. -/
  inHidden : Bool

namespace Surroundings

/-- The full name of what a body declares. -/
def fullName (s : Surroundings) (name : String) : String := s.path ++ "." ++ name

/-- The body of a class. -/
def enterClass (s : Surroundings) (name : String) : Surroundings :=
  { s with
    path := s.fullName name
    inClass := true
    inHidden := s.inHidden || visibilityOf name = .hidden }

/-- The body of a function. -/
def enterFunction (s : Surroundings) (name : String) : Surroundings :=
  { s with path := s.fullName name ++ ".<locals>", inClass := false, inFunction := true }

end Surroundings

/-- The declaration of a class. -/
def classDeclaration (s : Surroundings) (line : Nat) (name : String) (bases : List Expr)
    (keywords : List (Option String × Expr)) (decorators : List Expr) (body : List Stmt) :
    Declaration :=
  let supertypes := bases.filterMap s.scope.resolve?
  let metaclass := (keywords.lookup (some "metaclass")).bind s.scope.resolve?
  let isProtocol := supertypes.any (· ∈ protocolBases)
  let own := ownConstructor? body
  { name := some (s.fullName name)
    kind := if isProtocol then .protocol else .plainClass
    visibility := if s.inHidden then .hidden else visibilityOf name
    isAbstract := isProtocol || supertypes.any (· ∈ abstractBases) ||
      metaclass.any (· ∈ abstractMetaclasses) || body.any isAbstractMethod
    isNested := s.inClass
    isStatic := !s.inFunction
    hasNoargConstructor := own.getD true
    definesInit := own.isSome
    supertypes
    markers := markersOf s.scope decorators
    sourceFile := s.sourceFile
    line }

/-- The declaration of a function that carries markers. -/
def functionDeclaration (s : Surroundings) (line : Nat) (name : String) (decorators : List Expr) :
    Declaration where
  name := some (s.fullName name)
  kind := .function
  visibility := visibilityOf name
  markers := markersOf s.scope decorators
  sourceFile := s.sourceFile
  line := line

/-- Does a declaration carry any marker? -/
def isMarked (d : Declaration) : Bool := !d.markers.isEmpty

mutual

/-- The marked classes in a statement of a class or function body. -/
def markedInside (s : Surroundings) : Stmt → List Declaration
  | .classDef line name bases keywords decorators body =>
    let d := classDeclaration s line name bases keywords decorators body
    [d].filter isMarked ++ allMarkedInside (s.enterClass name) body
  | .functionDef _ name _ _ _ body => allMarkedInside (s.enterFunction name) body
  | _ => []

/-- The marked classes in a class or function body. -/
def allMarkedInside (s : Surroundings) : List Stmt → List Declaration
  | [] => []
  | statement :: rest => markedInside s statement ++ allMarkedInside s rest

end

/-! ### Modules -/

/-- Something marked: one of the classes at the top level, given by its place among them, or a
declaration of its own. -/
inductive Marked where
  | topLevel (index : Nat)
  | own (declaration : Declaration)

/-- What is known of a module: its name, its file, the classes at its top level, everything marked,
and the place to blame if it could not be read. -/
structure DeclaringModule where
  name : String
  path : String
  topLevel : List Declaration
  marked : List Marked
  syntaxError : Option String

/-- What the body of a module declares, with the number of classes before it. -/
def declaredBy (s : Surroundings) (before : Nat) : Stmt → List Declaration × List Marked
  | .classDef line name bases keywords decorators body =>
    let d := classDeclaration s line name bases keywords decorators body
    ([d], (if isMarked d then [.topLevel before] else []) ++
      (allMarkedInside (s.enterClass name) body).map .own)
  | .functionDef line name _ _ decorators body =>
    let d := functionDeclaration s line name decorators
    ([], ([d].filter isMarked ++ allMarkedInside (s.enterFunction name) body).map .own)
  | _ => ([], [])

/-- What some statements of the body of a module declare. -/
def declaredByAll (s : Surroundings) (before : Nat) :
    List Stmt → List Declaration × List Marked
  | [] => ([], [])
  | statement :: rest =>
    let (classes, marked) := declaredBy s before statement
    let (moreClasses, moreMarked) := declaredByAll s (before + classes.length) rest
    (classes ++ moreClasses, marked ++ moreMarked)

/-- What a module with a body declares. -/
def DeclaringModule.ofBody (name package path : String) (body : List Stmt) : DeclaringModule :=
  let s : Surroundings :=
    { scope := .ofBody name package body, sourceFile := path, path := name
      inClass := false, inFunction := false, inHidden := false }
  let (topLevel, marked) := declaredByAll s 0 body
  { name, path, topLevel, marked, syntaxError := none }

end ProviderRegistry.Source
