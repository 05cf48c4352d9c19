import ProviderRegistry.Number.Numeral
import ProviderRegistry.Number.Shortest
import ProviderRegistry.Text.Raw
import ProviderRegistry.Yaml.Timestamp

/-!
# Values

What a document comes to. A **scalar** holds no other values and may be a key; everything else is a
**cell** that refers to other cells by number, so that a value may occur in many places, and inside
itself.

A value has a text. Inside of collections texts are quoted, and a collection that is met again
inside itself is shown by dots.
-/

namespace ProviderRegistry.Yaml

/-- A value that holds no others. -/
inductive Scalar where
  | null
  | bool (value : Bool)
  | int (value : Int)
  | float (value : Binary64)
  | text (value : RawText)
  | octets (value : List UInt8)
  | timestamp (value : Timestamp)
  deriving DecidableEq, Repr

namespace Scalar

/-- The whole number that a scalar is as good as. -/
def int? : Scalar → Option Int
  | .bool value => some (if value then 1 else 0)
  | .int value => some value
  | _ => none

/-- The scalars are equal. Numbers are compared by what they are worth. -/
def equals (a b : Scalar) : Bool :=
  match a, b with
  | .float x, .float y => x.equals y
  | .float x, b => (b.int?).any x.equalsInt
  | a, .float y => (a.int?).any y.equalsInt
  | .timestamp x, .timestamp y => x.equals y
  | a, b =>
    match a.int?, b.int? with
    | some m, some n => m = n
    | _, _ => a = b

/-- An octet as it stands between two quotes. -/
def escapedOctet (q : Char) (b : UInt8) : List Char :=
  let c := Char.ofNat b.toNat
  if b < 0x80 then
    if c = q ∨ c.toNat < 0x20 ∨ c = '\\' then Text.escaped q c
    else if b = 0x7f then Text.escapedByCode c
    else [c]
  else Text.escapedByCode c

/-- Octets between quotes. -/
def octetsText (octets : List UInt8) : String :=
  let q := Text.quoteFor (octets.map fun b => Char.ofNat b.toNat)
  String.ofList ('b' :: q :: octets.flatMap (escapedOctet q) ++ [q])

/-- How the scalar is shown inside a collection. -/
def shown : Scalar → Except Numeral.Fault String
  | .null => .ok "None"
  | .bool value => .ok (if value then "True" else "False")
  | .int value => Numeral.wholeText value
  | .float value => .ok value.text
  | .text value => .ok value.quote
  | .octets value => .ok (octetsText value)
  | .timestamp value => .ok value.shown

/-- The scalar as a text. -/
def toText : Scalar → Except Numeral.Fault RawText
  | .text value => .ok value
  | .timestamp value => .ok value.text
  | scalar => return (← scalar.shown : String)

end Scalar

/-- A part of a value: a scalar, or a collection of other parts. -/
inductive Cell where
  | scalar (value : Scalar)
  | list (items : List Nat)
  | mapping (entries : List (Scalar × Nat))
  | set (members : List Scalar)
  | pairs (entries : List (Nat × Nat))
  deriving DecidableEq, Repr

/-- A value: its cells, and the one that it is. -/
structure Value where
  cells : Array Cell
  root : Nat

namespace Value

/-- Nothing. -/
def null : Value := ⟨#[], 0⟩

/-- The cell of a number. -/
def cellAt (value : Value) (number : Nat) : Cell := value.cells.getD number (.scalar .null)

/-- The cell that the value is. -/
def cell (value : Value) : Cell := value.cellAt value.root

/-- A part of the value. -/
def part (value : Value) (number : Nat) : Value := { value with root := number }

/-- Texts between brackets. -/
def enclosed (opening closing : String) (texts : List String) : String :=
  opening ++ ", ".intercalate texts ++ closing

/-- How a cell is shown, inside the cells around it. Cells around are different from each other, so
their number bounds the depth. -/
def shown (value : Value) : Nat → List Nat → Nat → Except Numeral.Fault String
  | 0, _, _ => .ok ""
  | fuel + 1, around, number =>
    let inside := value.shown fuel (number :: around)
    match value.cellAt number with
    | .scalar scalar => scalar.shown
    | .list items =>
      if number ∈ around then .ok "[...]"
      else return enclosed "[" "]" (← items.mapM inside)
    | .mapping entries =>
      if number ∈ around then .ok "\x7b...\x7d"
      else do
        let texts ← entries.mapM fun (key, number) =>
          return (← key.shown) ++ ": " ++ (← inside number)
        return enclosed "\x7b" "\x7d" texts
    | .set members =>
      if members.isEmpty then .ok "set()"
      else return enclosed "\x7b" "\x7d" (← members.mapM Scalar.shown)
    | .pairs entries =>
      if number ∈ around then .ok "[...]"
      else do
        let texts ← entries.mapM fun (first, second) =>
          return enclosed "(" ")" [← inside first, ← inside second]
        return enclosed "[" "]" texts

/-- The value as a text. -/
def toText (value : Value) : Except Numeral.Fault RawText :=
  match value.cell with
  | .scalar scalar => scalar.toText
  | _ => return (← value.shown (value.cells.size + 1) [] value.root : String)

/-- A value that counts as none: nothing, off, zero, or something empty. -/
def isEmpty (value : Value) : Bool :=
  match value.cell with
  | .scalar .null => true
  | .scalar (.bool on) => !on
  | .scalar (.int n) => n = 0
  | .scalar (.float x) => x.isZero
  | .scalar (.text s) => s.isEmpty
  | .scalar (.octets bs) => bs.isEmpty
  | .scalar (.timestamp _) => false
  | .list items => items.isEmpty
  | .mapping entries => entries.isEmpty
  | .set members => members.isEmpty
  | .pairs entries => entries.isEmpty

end Value

end ProviderRegistry.Yaml
