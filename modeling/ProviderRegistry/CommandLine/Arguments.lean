/-!
# Arguments

The words of a command line, sorted into options and the words that stand for themselves. An option
has long names, which start with two dashes, and short ones of a single letter behind one dash. The
value of an option is the next word, or what follows a long name and an equals sign, or the rest of
the word behind a letter; letters of options without value may share a word. Two dashes alone end
the options.
-/

namespace ProviderRegistry.CommandLine

/-- An option: its key, its names, and whether it takes a value. -/
structure OptionSpec where
  key : String
  names : List String
  takesValue : Bool := true

/-- The options of a command line with their values, in the order given, and the other words. -/
structure Arguments where
  given : List (String × String) := []
  words : List String := []
  deriving DecidableEq, Repr

namespace Arguments

/-- The option was given. -/
def has (args : Arguments) (key : String) : Bool := args.given.any (·.1 == key)

/-- All values of an option. -/
def all (args : Arguments) (key : String) : List String :=
  args.given.filterMap fun entry => if entry.1 == key then some entry.2 else none

/-- The value of an option; of several the last. -/
def last? (args : Arguments) (key : String) : Option String := (args.all key).getLast?

/-- The option of a name. -/
def find? (specs : List OptionSpec) (name : String) : Option OptionSpec :=
  specs.find? fun spec => name ∈ spec.names

/-- An option with its value, and how many of the next words went into it. -/
abbrev Taken := List (String × String) × Nat

/-- An option with a long name. -/
def takeLong (spec : OptionSpec) (value next : Option String) : Option Taken :=
  match spec.takesValue, value with
  | true, some value => some ([(spec.key, value)], 0)
  | true, none => next.map fun value => ([(spec.key, value)], 1)
  | false, none => some ([(spec.key, "")], 0)
  | false, some _ => none

/-- Options of one letter each; the first one with a value takes the rest of the word. -/
def takeLetters (specs : List OptionSpec) (next : Option String) : List Char → Option Taken
  | [] => some ([], 0)
  | c :: rest =>
    match find? specs (String.ofList ['-', c]) with
    | none => none
    | some spec =>
      if spec.takesValue then
        if rest.isEmpty then next.map fun value => ([(spec.key, value)], 1)
        else some ([(spec.key, String.ofList rest)], 0)
      else (takeLetters specs next rest).map fun taken => ((spec.key, "") :: taken.1, taken.2)

/-- A word that starts with a dash. -/
def take (specs : List OptionSpec) (word : String) (next : Option String) : Option Taken :=
  let cs := word.toList
  let name := cs.takeWhile (· != '=')
  let value := if '=' ∈ cs then some (String.ofList (cs.drop (name.length + 1))) else none
  match find? specs (String.ofList name) with
  | some spec =>
    if 2 < name.length then takeLong spec value next else takeLetters specs next (cs.drop 1)
  | none =>
    if ['-', '-'].isPrefixOf cs then none else takeLetters specs next (cs.drop 1)

/-- Is a word one of options? -/
def isOption (word : String) : Bool := "-".toList.isPrefixOf word.toList && word ≠ "-"

/-- Sorts the words of a command line. Options may follow other words only where they may be
mixed. -/
def parse (specs : List OptionSpec) (mixed : Bool) (found : Arguments) :
    List String → Option Arguments
  | [] => some found
  | word :: rest =>
    if word = "--" then some { found with words := found.words ++ rest }
    else if isOption word then
      match take specs word rest.head? with
      | none => none
      | some (given, used) =>
        parse specs mixed { found with given := found.given ++ given } (rest.drop used)
    else if mixed then parse specs mixed { found with words := found.words ++ [word] } rest
    else some { found with words := found.words ++ word :: rest }
  termination_by words => words.length
  decreasing_by all_goals simp only [List.length_drop, List.length_cons]; omega

end Arguments

end ProviderRegistry.CommandLine
