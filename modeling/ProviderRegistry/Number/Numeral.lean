import ProviderRegistry.Number.Binary64
import ProviderRegistry.Text.Blank
import ProviderRegistry.Text.Digit
import ProviderRegistry.Text.Quoted

/-!
# Numerals

Reading a number from a text that holds nothing else: a whole number in a base, or a decimal.
Blanks around the number, a sign and the digits of all scripts are accepted; a base of two, eight
or sixteen may be marked once more in front of the digits. A text that is refused becomes part of
the fault.
-/

namespace ProviderRegistry.Numeral

/-- Why a text has no number, or a number no text. -/
inductive Fault where
  | empty
  | notWhole (base : Nat) (text : String)
  | notDecimal (text : String)
  /-- A text with too many digits. -/
  | tooLong (digits : Nat)
  /-- A number with too many digits. -/
  | tooLarge
  deriving DecidableEq, Repr

/-- The most digits of a whole number in base ten. -/
def maxDigits : Nat := 4300

/-- How much of a refused text is shown. -/
def maxShown : Nat := 200

/-- What to do about a number with too many digits. -/
def limitAdvice : String := "use sys.set_int_max_str_digits() to increase the limit"

/-- The fault in words. -/
def Fault.message : Fault → String
  | .empty => "string index out of range"
  | .notWhole base text =>
    let shown := String.ofList ((Text.quote text).toList.take maxShown)
    s!"invalid literal for int() with base {base}: {shown}"
  | .notDecimal text => s!"could not convert string to float: {Text.quote text}"
  | .tooLong digits =>
    s!"Exceeds the limit ({maxDigits} digits) for integer string conversion: " ++
      s!"value has {digits} digits; {limitAdvice}"
  | .tooLarge =>
    s!"Exceeds the limit ({maxDigits} digits) for integer string conversion; {limitAdvice}"

/-- A sign, and what follows it. -/
def splitSign : List Char → Bool × List Char
  | '-' :: rest => (true, rest)
  | '+' :: rest => (false, rest)
  | cs => (false, cs)

/-- The letter that marks a base. -/
def baseMark? : Nat → Option Char
  | 2 => some 'b'
  | 8 => some 'o'
  | 16 => some 'x'
  | _ => none

/-- What follows the mark of a base. -/
def dropMark (base : Nat) (cs : List Char) : List Char :=
  match cs with
  | '0' :: mark :: rest => if some mark.toLower = baseMark? base then rest else cs
  | cs => cs

/-- The whole number in a text. -/
def whole (base : Nat) (text : String) : Except Fault Int :=
  let (negative, cs) := splitSign (Text.trim text.toList)
  let digits := dropMark base cs
  match Text.natOfDigits? base digits with
  | none => .error (.notWhole base text)
  | some n =>
    if (baseMark? base).isNone && maxDigits < digits.length then .error (.tooLong digits.length)
    else .ok (Binary64.signed negative n)

/-- A whole number as a text. -/
def wholeText (n : Int) : Except Fault String :=
  if Nat.pow 10 maxDigits ≤ n.natAbs then .error .tooLarge else .ok (toString n)

/-- Digits in base ten at the front of a text, and what follows them. -/
def cutDigits : List Char → List Nat × List Char
  | [] => ([], [])
  | c :: rest =>
    match Text.decimalValue? c with
    | none => ([], c :: rest)
    | some d =>
      let (digits, rest) := cutDigits rest
      (d :: digits, rest)

/-- The power of ten at the end of a decimal. -/
def exponent? : List Char → Option Int
  | [] => some 0
  | e :: rest =>
    let (negative, cs) := splitSign rest
    match cutDigits cs with
    | (digits, after) =>
      if (e = 'e' ∨ e = 'E') ∧ !digits.isEmpty ∧ after.isEmpty then
        some (Binary64.signed negative (Text.ofDigits 10 digits))
      else none

/-- A decimal without sign: digits, of which some may follow a point, and a power of ten. -/
def unsignedDecimal? (negative : Bool) (cs : List Char) : Option Binary64 := do
  let (before, rest) := cutDigits cs
  let (after, rest) := match rest with
    | '.' :: rest => cutDigits rest
    | rest => ([], rest)
  if before.isEmpty && after.isEmpty then none
  let power ← exponent? rest
  return .ofDecimal negative (Text.ofDigits 10 (before ++ after)) (power - after.length)

/-- The number in a text, which may be infinite or undefined. -/
def decimal (text : String) : Except Fault Binary64 :=
  let (negative, cs) := splitSign (Text.trim text.toList)
  let word := String.ofList (cs.map Char.toLower)
  if word = "inf" ∨ word = "infinity" then .ok (.infinite negative)
  else if word = "nan" then .ok .undefined
  else
    match unsignedDecimal? negative cs with
    | some x => .ok x
    | none => .error (.notDecimal text)

example : (whole 8 "0o17").toOption = some 15 := by decide +kernel
example : (whole 10 " -12 ").toOption = some (-12) := by decide +kernel
example : (decimal "-1.5E1").toOption = some (.ofInt (-15)) := by decide +kernel

end ProviderRegistry.Numeral
