import ProviderRegistry.Text.Capital
import ProviderRegistry.Text.Split
import ProviderRegistry.Yaml.Timestamp

/-!
# What plain texts mean

A text without quotes and without a tag gets its tag from its form: a switch, a number in one of
many notations, a timestamp, nothing, or else a text. The forms are those of YAML 1.1: the words
for switches include `yes` and `off`, a leading zero makes a number octal, and colons separate
sixtieths.
-/

namespace ProviderRegistry.Yaml

/-! ### Tags -/

/-- What the tags of the format start with. -/
def core : String := "tag:yaml.org,2002:"

/-- The tags that values are known for. -/
inductive Kind where
  | null
  | bool
  | int
  | float
  | binary
  | timestamp
  | text
  | sequence
  | mapping
  | set
  | orderedMap
  | pairs
  deriving DecidableEq, Repr

/-- The kinds with the names of their tags. -/
def Kind.names : List (String × Kind) :=
  [("null", .null), ("bool", .bool), ("int", .int), ("float", .float), ("binary", .binary),
    ("timestamp", .timestamp), ("str", .text), ("seq", .sequence), ("map", .mapping),
    ("set", .set), ("omap", .orderedMap), ("pairs", .pairs)]

/-- The kind that a tag stands for. -/
def Kind.ofTag? (tag : String) : Option Kind :=
  (names.find? fun entry => core ++ entry.1 == tag).map (·.2)

/-- The tag of a key whose value is merged into the mapping around it. -/
def mergeTag : String := core ++ "merge"

/-- The tag of a key whose value stands for the mapping around it. -/
def valueTag : String := core ++ "value"

/-- The tag of texts. -/
def textTag : String := core ++ "str"

/-- The tag of sequences. -/
def sequenceTag : String := core ++ "seq"

/-- The tag of mappings. -/
def mappingTag : String := core ++ "map"

/-! ### Forms -/

/-- The words for a switch that is on. -/
def wordsOn : List String := ["yes", "true", "on"]

/-- The words for a switch that is off. -/
def wordsOff : List String := ["no", "false", "off"]

/-- A word in small letters, with a capital in front, or in capitals. -/
def isSpelling (word text : String) : Bool :=
  text = word || text = Text.capitalized word || text = Text.inCapitals word

/-- A text in the form of a switch. -/
def isSwitch (text : String) : Bool := (wordsOn ++ wordsOff).any (isSpelling · text)

/-- A text in the form of nothing. -/
def isNothing (text : String) : Bool := text = "" || text = "~" || isSpelling "null" text

/-- A text without a sign in front. -/
def withoutSign : List Char → List Char
  | '-' :: rest => rest
  | '+' :: rest => rest
  | cs => cs

/-- Characters of a kind, or underscores, of which there is at least one. -/
def isRun (p : Char → Bool) (cs : List Char) : Bool :=
  !cs.isEmpty && cs.all fun c => p c || c = '_'

/-- A digit that is not zero, and digits and underscores behind it. -/
def isPositive : List Char → Bool
  | c :: rest => c.isDigit && c ≠ '0' && rest.all fun d => d.isDigit || d = '_'
  | [] => false

/-- Fewer than sixty, in one digit or two. -/
def isSixtieth : List Char → Bool
  | [c] => c.isDigit
  | [c, d] => '0' ≤ c && c ≤ '5' && d.isDigit
  | _ => false

/-- A number without sign, and sixtieths of it behind colons. -/
def isSexagesimal (isFirst : List Char → Bool) (cs : List Char) : Bool :=
  match Text.split ':' cs with
  | first :: rest => !rest.isEmpty && isFirst first && rest.all isSixtieth
  | [] => false

/-- A text in the form of a whole number. -/
def isInteger (cs : List Char) : Bool :=
  match withoutSign cs with
  | ['0'] => true
  | '0' :: 'b' :: rest => isRun (fun c => c = '0' || c = '1') rest
  | '0' :: 'x' :: rest => isRun Text.isHexDigit rest
  | '0' :: rest => isRun (fun c => '0' ≤ c && c ≤ '7') rest
  | cs => isPositive cs || isSexagesimal isPositive cs

/-- A digit, and digits and underscores behind it. -/
def isDigits : List Char → Bool
  | c :: rest => c.isDigit && rest.all fun d => d.isDigit || d = '_'
  | [] => false

/-- Nothing, or an exponent with its sign. -/
def isExponent : List Char → Bool
  | [] => true
  | e :: sign :: digits =>
    (e = 'e' || e = 'E') && (sign = '+' || sign = '-') && !digits.isEmpty &&
      digits.all Char.isDigit
  | _ => false

/-- Digits and underscores, and an exponent that may follow them. -/
def isFraction (cs : List Char) : Bool :=
  isExponent (cs.dropWhile fun c => c.isDigit || c = '_')

/-- A text in the form of a number with a point. -/
def isDecimal (text : String) : Bool :=
  let cs := text.toList
  let unsigned := withoutSign cs
  let before := Text.beforeFirst '.' unsigned
  match Text.afterFirst? '.' unsigned with
  | none => false
  | some after =>
    (isDigits before && isFraction after) ||
      (cs.head? = some '.' && after.head?.any Char.isDigit && isFraction after) ||
      (isSexagesimal isDigits before && after.all fun c => c.isDigit || c = '_') ||
      (before.isEmpty && (String.ofList after) ∈ ["inf", "Inf", "INF"]) ||
      text ∈ [".nan", ".NaN", ".NAN"]

/-- The tag of a text without quotes and tag. -/
def tagOfPlain (text : String) : String :=
  if isSwitch text then core ++ "bool"
  else if isDecimal text then core ++ "float"
  else if isInteger text.toList then core ++ "int"
  else if text = "<<" then mergeTag
  else if isNothing text then core ++ "null"
  else if isTimestamp text.toList then core ++ "timestamp"
  else if text = "=" then valueTag
  else if text ∈ ["!", "&", "*"] then core ++ "yaml"
  else textTag

example : ["1_000", "-0x1F", "010", "1:30", "0", "+5"].all (isInteger ·.toList) := by
  decide +kernel
example : ["08", "0o7", "1e5", "1:60", "-", "1:"].any (isInteger ·.toList) = false := by
  decide +kernel
example : ["1.", "-.inf", ".5", "1.5e-7", "1:30.5", ".NaN"].all isDecimal := by decide +kernel
example : [".", "1e400", "1.5e7", "-.5", ".nAN"].any isDecimal = false := by decide +kernel

end ProviderRegistry.Yaml
