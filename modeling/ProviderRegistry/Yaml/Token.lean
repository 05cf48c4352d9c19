import ProviderRegistry.Text.Raw
import ProviderRegistry.Yaml.Fault

/-!
# Tokens of YAML

What a YAML text consists of. The layout of block collections has tokens of its own: one that opens
a block sequence or mapping, and one that closes it, so that what follows need not know columns.

The tokens of a text end in one that says whether the text ended or broke off, and why.
-/

namespace ProviderRegistry.Yaml

/-- A line in front of a document that says how to read it. -/
inductive Directive where
  | version (major : Nat)
  | handle (handle expansion : String)
  | other
  deriving DecidableEq, Repr

/-- The tokens of a YAML text. -/
inductive Token where
  | directive (directive : Directive)
  | documentStart
  | documentEnd
  /-- A block sequence starts. -/
  | blockSequence
  /-- A block mapping starts. -/
  | blockMapping
  /-- The innermost block collection ends. -/
  | blockEnd
  | openSequence
  | closeSequence
  | openMapping
  | closeMapping
  | comma
  /-- The dash of an item. -/
  | item
  /-- What follows is a key. -/
  | key
  /-- What follows is the value of a key. -/
  | value
  /-- A node that an anchor named. -/
  | reference (name : String)
  | anchor (name : String)
  /-- A tag; one without handle is given in full. -/
  | tag (handle : Option String) (suffix : String)
  /-- A text, which a plain style leaves open to be something else. -/
  | scalar (text : RawText) (plain : Bool)
  | endOfText
  | broken (fault : Fault)
  deriving DecidableEq, Repr

/-! ### Characters -/

/-- A character that ends a line. -/
def isBreak (c : Char) : Bool :=
  c = '\n' || c = Char.ofNat 0x85 || c = Char.ofNat 0x2028 || c = Char.ofNat 0x2029

/-- What a line end stands for in a text. -/
def breakText (c : Char) : Char := if c = Char.ofNat 0x85 then '\n' else c

/-- The next character ends a line, or there is none. -/
def endsLine (next : Option Char) : Bool := next.all isBreak

/-- The next character is a space or ends a line, or there is none. -/
def endsPart (next : Option Char) : Bool := next.all fun c => c = ' ' || isBreak c

/-- The next character is a space or a tab or ends a line, or there is none. -/
def endsWord (next : Option Char) : Bool := next.all fun c => c = ' ' || c = '\t' || isBreak c

/-- A character of names. -/
def isNameChar (c : Char) : Bool := c.isAlphanum || c = '-' || c = '_'

/-- A character that may stand in a YAML text at all. -/
def isAllowed (c : Char) : Bool :=
  let n := c.toNat
  c = '\t' || c = '\n' || c = '\r' || (0x20 ≤ n && n ≤ 0x7e) || n = 0x85 ||
    (0xa0 ≤ n && n ≤ 0xfffd) || 0x10000 ≤ n

end ProviderRegistry.Yaml
