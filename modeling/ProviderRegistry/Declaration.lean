/-!
# Declarations

What a registry knows of a class or a function that a source declares.
-/

namespace ProviderRegistry

/-- What was declared. -/
inductive DeclarationKind where
  | plainClass
  | protocol
  | function
  deriving DecidableEq, Repr

/-- The word for a kind. -/
def DeclarationKind.word : DeclarationKind → String
  | .plainClass => "class"
  | .protocol => "protocol"
  | .function => "function"

/-- Who may use what was declared. -/
inductive Visibility where
  | exposed
  | hidden
  deriving DecidableEq, Repr

/-- The word for a visibility. -/
def Visibility.word : Visibility → String
  | .exposed => "public"
  | .hidden => "private"

/-- A declaration with the facts that decide whether it may be registered. A caller may fail to
name it, or a target of one of its markers. -/
structure Declaration where
  /-- The full name, whose parts are joined by dots. -/
  name : Option String
  kind : DeclarationKind := .plainClass
  visibility : Visibility := .exposed
  isAbstract : Bool := false
  /-- Stands inside another class. -/
  isNested : Bool := false
  /-- Does not stand inside a function. -/
  isStatic : Bool := true
  hasNoargConstructor : Bool := true
  /-- The class body itself writes a constructor. -/
  definesInit : Bool := false
  /-- The names of the classes that it inherits from. -/
  supertypes : List String := []
  /-- The targets given to each marker. -/
  markers : List (String × List (Option String)) := []
  sourceFile : String := ""
  line : Int := 0
  deriving DecidableEq, Repr

/-- What follows the last dot of a name. -/
def simpleName (name : String) : String :=
  String.ofList (name.toList.reverse.takeWhile (· != '.')).reverse

namespace Declaration

/-- May everybody use it? -/
def isPublic (d : Declaration) : Bool := d.visibility = .exposed

/-- Does it carry a marker of this name? -/
def hasMarker (d : Declaration) (marker : String) : Bool := d.markers.any (·.1 == marker)

/-- The targets given to a marker of this name. -/
def targets (d : Declaration) (marker : String) : List (Option String) :=
  (d.markers.lookup marker).getD []

/-- Is it, or does it inherit from, what a target names? -/
def isAssignableTo (d : Declaration) (target : Option String) : Bool :=
  target == d.name || (target.any fun target => target ∈ d.supertypes)

end Declaration

end ProviderRegistry
