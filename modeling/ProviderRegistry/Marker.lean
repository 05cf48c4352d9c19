/-!
# Markers

A class is opted into a registry by a marker that names its targets. While a program runs, a marker
only records its targets on the class that it is put on; a class that inherits from it is not
marked.
-/

namespace ProviderRegistry

/-- The markers, one for each kind of registry. -/
inductive Marker where
  | provider
  | typeProvider
  | index
  deriving DecidableEq, Repr

namespace Marker

/-- How a marker is written. -/
def name : Marker → String
  | .provider => "provider_for"
  | .typeProvider => "type_provider_for"
  | .index => "index_for"

/-- All markers. -/
def all : List Marker := [.provider, .typeProvider, .index]

/-- The marker that a name stands for. -/
def ofName? (name : String) : Option Marker := all.find? fun marker => marker.name == name

/-- The parameter of a marker that a target may be given for by name. The markers that take any
number of targets have none. -/
def parameter? : Marker → Option String
  | .index => some "indexed_type"
  | .provider | .typeProvider => none

/-- Why the arguments of a call do not fit a marker. -/
inductive Misuse where
  | noTarget (marker : Marker)
  | noIndexedType
  | severalIndexedTypes (given : Nat)
  | unknownName (marker : Marker) (name : String)
  | givenTwice (marker : Marker) (name : String)
  deriving DecidableEq, Repr

/-- The misuse in words. -/
def Misuse.message : Misuse → String
  | .noTarget marker => s!"@{marker.name} needs at least one target class"
  | .noIndexedType => "index_for() missing 1 required positional argument: 'indexed_type'"
  | .severalIndexedTypes given =>
    s!"index_for() takes 1 positional argument but {given} were given"
  | .unknownName marker name => s!"{marker.name}() got an unexpected keyword argument '{name}'"
  | .givenTwice marker name => s!"{marker.name}() got multiple values for argument '{name}'"

/-- The target that the parameter of a marker has after some arguments are given by name, one after
the other, where it may have one from an argument given by position. -/
def bindNamed (marker : Marker) (target : Option String) :
    List (String × String) → Except Misuse (Option String)
  | [] => .ok target
  | (name, given) :: rest =>
    if marker.parameter? ≠ some name then .error (.unknownName marker name)
    else if target.isSome then .error (.givenTwice marker name)
    else marker.bindNamed (some given) rest

/-- The targets that a call of a marker with arguments given by position and by name has: an index
takes one, the others one or more. The arguments given by name are looked at first. -/
def targets (marker : Marker) (arguments : List String) (named : List (String × String)) :
    Except Misuse (List String) := do
  let target ← marker.bindNamed arguments.head? named
  match marker with
  | .index =>
    if 1 < arguments.length then throw (.severalIndexedTypes arguments.length)
    match target with
    | some target => return [target]
    | none => throw .noIndexedType
  | .provider | .typeProvider =>
    if arguments.isEmpty then throw (.noTarget marker)
    return arguments

end Marker

/-- The targets recorded on one class, in the order of recording. -/
abbrev Recorded := List (Marker × String)

namespace Recorded

/-- The targets that one marker recorded. -/
def targets (recorded : Recorded) (marker : Marker) : List String :=
  (recorded.filter fun entry => entry.1 = marker).map (·.2)

/-- The targets of a marker follow those that it recorded before. -/
def add (recorded : Recorded) (marker : Marker) (targets : List String) : Recorded :=
  recorded ++ targets.map fun target => (marker, target)

/-- A marker called with arguments and put on a class. -/
def mark (recorded : Recorded) (marker : Marker) (arguments : List String)
    (named : List (String × String) := []) : Except Marker.Misuse Recorded :=
  (marker.targets arguments named).map (recorded.add marker)

end Recorded

end ProviderRegistry
