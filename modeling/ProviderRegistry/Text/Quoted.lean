import ProviderRegistry.Text.Printable

/-!
# Quoted text

How a text is shown inside a message or inside a list: between single quotes, or between double
quotes when it holds a single quote and no double one. The quote in use and the backslash get a
backslash; tab, line feed and carriage return have letters; any other character that is not
printable is given by its code point in two, four or eight hexadecimal digits.
-/

namespace ProviderRegistry.Text

/-- The last `width` hexadecimal digits of a number, in lower case, led by zeros. -/
def hexDigits : Nat → Nat → List Char
  | 0, _ => []
  | width + 1, n => hexDigits width (n / 16) ++ [Nat.digitChar (n % 16)]

@[simp]
theorem length_hexDigits (width n : Nat) : (hexDigits width n).length = width := by
  induction width generalizing n with
  | zero => rfl
  | succ width ih => simp [hexDigits, ih]

/-- A character written by its code point. -/
def escapedByCode (c : Char) : List Char :=
  let n := c.toNat
  if n < 0x100 then '\\' :: 'x' :: hexDigits 2 n
  else if n < 0x10000 then '\\' :: 'u' :: hexDigits 4 n
  else '\\' :: 'U' :: hexDigits 8 n

/-- A character as it stands between two quotes `q`. -/
def escaped (q c : Char) : List Char :=
  if c = q ∨ c = '\\' then ['\\', c]
  else if c = '\n' then ['\\', 'n']
  else if c = '\r' then ['\\', 'r']
  else if c = '\t' then ['\\', 't']
  else if isPrintable c then [c]
  else escapedByCode c

/-- The quote that a text is shown between. -/
def quoteFor (cs : List Char) : Char :=
  if '\'' ∈ cs ∧ '"' ∉ cs then '"' else '\''

/-- The text between its quotes. -/
def quote (s : String) : String :=
  let q := quoteFor s.toList
  String.ofList (q :: s.toList.flatMap (escaped q) ++ [q])

/-- The text of a list: its members between brackets, with a comma and a space between two. -/
def bracketed (items : List String) : String :=
  "[" ++ ", ".intercalate items ++ "]"

example : quote "it's" = "\"it's\"" := by cbv
example : quote "a\n\x01b" = "'a\\n\\x01b'" := by cbv

end ProviderRegistry.Text
