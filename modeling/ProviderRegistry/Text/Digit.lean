/-!
# Digits

The decimal digits of every script (Unicode, version 14) stand in runs of ten, from zero to nine,
so the zeros alone say what every digit is worth. Beyond nine a digit is a letter of ASCII.
-/

namespace ProviderRegistry.Text

/-- The zeros of all scripts. -/
def zeros : Array Nat :=
  #[0x30, 0x660, 0x6f0, 0x7c0, 0x966, 0x9e6, 0xa66, 0xae6, 0xb66, 0xbe6, 0xc66, 0xce6, 0xd66,
    0xde6, 0xe50, 0xed0, 0xf20, 0x1040, 0x1090, 0x17e0, 0x1810, 0x1946, 0x19d0, 0x1a80, 0x1a90,
    0x1b50, 0x1bb0, 0x1c40, 0x1c50, 0xa620, 0xa8d0, 0xa900, 0xa9d0, 0xa9f0, 0xaa50, 0xabf0, 0xff10,
    0x104a0, 0x10d30, 0x11066, 0x110f0, 0x11136, 0x111d0, 0x112f0, 0x11450, 0x114d0, 0x11650,
    0x116c0, 0x11730, 0x118e0, 0x11950, 0x11c50, 0x11d50, 0x11da0, 0x16a60, 0x16ac0, 0x16b50,
    0x1d7ce, 0x1d7d8, 0x1d7e2, 0x1d7ec, 0x1d7f6, 0x1e140, 0x1e2f0, 0x1e950, 0x1fbf0]

/-- What a decimal digit is worth. -/
def decimalValue? (c : Char) : Option Nat :=
  (zeros.find? fun first => first ≤ c.toNat && c.toNat < first + 10).map (c.toNat - ·)

/-- What a digit is worth, in a base up to thirty-six. -/
def digitValue? (base : Nat) (c : Char) : Option Nat :=
  let letter := c.toLower
  let value :=
    if 'a' ≤ letter && letter ≤ 'z' then some (letter.toNat - 'a'.toNat + 10) else decimalValue? c
  value.filter (· < base)

/-- A hexadecimal digit of ASCII. -/
def isHexDigit (c : Char) : Bool := c.isDigit || ('a' ≤ c && c ≤ 'f') || ('A' ≤ c && c ≤ 'F')

/-- The number that digits stand for, the first digit counting most. -/
def ofDigits (base : Nat) (digits : List Nat) : Nat := digits.foldl (fun n d => base * n + d) 0

/-- The number that a text of digits stands for. There must be a digit. -/
def natOfDigits? (base : Nat) (cs : List Char) : Option Nat :=
  if cs.isEmpty then none else (cs.mapM (digitValue? base)).map (ofDigits base)

/-- A digit is worth less than its base. -/
theorem digitValue?_lt {base value : Nat} {c : Char} (h : digitValue? base c = some value) :
    value < base := by
  have := Option.filter_eq_some_iff.1 h
  simpa using this.2

example : natOfDigits? 10 "0190".toList = some 190 := by cbv
example : natOfDigits? 16 "fF".toList = some 255 := by cbv
example : natOfDigits? 8 "8".toList = none := by cbv

end ProviderRegistry.Text
