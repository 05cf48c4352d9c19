import ProviderRegistry.Declaration
import ProviderRegistry.Fault
import ProviderRegistry.Marker

/-!
# Flavors of registries

A **flavor** decides which declarations a registry accepts, and for which targets. Services must be
concrete public classes that can be made without arguments and inherit from every target; types
need only be public; an index takes public classes that stand at the top level and name one target.
-/

namespace ProviderRegistry

/-- The kinds of registries. -/
inductive Flavor where
  | service
  | type
  | index
  deriving DecidableEq, Repr

/-- What speaks against the registration of a declaration. -/
inductive Objection where
  | noClass
  | noPublicClass
  | noStaticClass
  | abstractClass
  | noConstructor
  | notImplementing (target : Option String)
  | noClassNorProtocol
  | notPublic
  | nestedClass
  | notOneTarget
  /-- An objection in words of its own. -/
  | stated (text : String)
  deriving DecidableEq, Repr

/-- The objection in words, to follow the name of the declaration. -/
def Objection.text : Objection → String
  | .noClass => "is not a class"
  | .noPublicClass => "is not a public class"
  | .noStaticClass => "is not a static class"
  | .abstractClass => "is an abstract class"
  | .noConstructor => "has no public no-args constructor"
  | .notImplementing target => s!"does not implement {target.getD missing}"
  | .noClassNorProtocol => "is not a class nor a protocol"
  | .notPublic => "is not public"
  | .nestedClass => "is a nested class"
  | .notOneTarget => "must name exactly one indexed type"
  | .stated text => text
where
  /-- How a target that is missing is shown. -/
  missing : String := "None"

/-- An objection in words of its own, which must be given. -/
def Objection.ofText (text : Option String) : Except Fault Objection :=
  return .stated (← required "message" text)

namespace Flavor

/-- All flavors. -/
def all : List Flavor := [.service, .type, .index]

/-- How a flavor is called. -/
def name : Flavor → String
  | .service => "service"
  | .type => "type"
  | .index => "index"

/-- The flavor that is called by a name. -/
def ofName? (name : String) : Option Flavor := all.find? fun flavor => flavor.name == name

/-- What is said of a name that calls no flavor. -/
def unknownMessage (name : String) : String :=
  let known := ", ".intercalate (all.map Flavor.name)
  s!"Unknown registry flavor '{name}'. Known: {known}"

/-- The marker that opts a declaration in. -/
def marker : Flavor → Marker
  | .service => .provider
  | .type => .typeProvider
  | .index => .index

/-- Where listings are kept unless the options say otherwise. -/
def defaultDir : Flavor → String
  | .service => "providers/services/"
  | .type => "providers/types/"
  | .index => "providers/index/"

/-- The first of some objections that holds. -/
def firstObjection (checks : List (Bool × Objection)) : Option Objection :=
  (checks.find? (·.1)).map (·.2)

/-- What speaks against a declaration, whatever its targets. -/
def objection? (flavor : Flavor) (d : Declaration) : Option Objection :=
  match flavor with
  | .service => firstObjection [
      (d.kind ≠ .plainClass, .noClass),
      (!d.isPublic, .noPublicClass),
      (!d.isStatic, .noStaticClass),
      (d.isAbstract, .abstractClass),
      (!d.hasNoargConstructor, .noConstructor)]
  | .type => firstObjection [
      (d.kind = .function, .noClassNorProtocol),
      (!d.isPublic, .notPublic)]
  | .index => firstObjection [
      (d.kind ≠ .plainClass, .noClass),
      (!d.isPublic, .notPublic),
      (d.isNested, .nestedClass),
      ((d.targets flavor.marker.name).length ≠ 1, .notOneTarget)]

/-- The targets under which a declaration asks to be registered. -/
def targets (flavor : Flavor) (d : Declaration) : List (Option String) :=
  match flavor with
  | .index => (d.targets flavor.marker.name).take 1
  | _ => d.targets flavor.marker.name

/-- What speaks against a declaration under one target. -/
def targetObjection? (flavor : Flavor) (d : Declaration) (target : Option String) :
    Option Objection :=
  match flavor with
  | .service => if d.isAssignableTo target then none else some (.notImplementing target)
  | _ => none

end Flavor

/-- A rejection: the simple name of a declaration and what speaks against it. -/
structure Rejection where
  declaration : String
  objection : Objection
  deriving DecidableEq, Repr

/-- The rejection in words. -/
def Rejection.message (r : Rejection) : String := s!"{r.declaration} {r.objection.text}"

/-- The rejection of a declaration, which must have a name. -/
def Rejection.of (d : Declaration) (objection : Objection) : Except Fault Rejection :=
  match d.name with
  | none => .error .nameless
  | some name => .ok ⟨simpleName name, objection⟩

end ProviderRegistry
