import ProviderRegistry.Number.Binary64

/-!
# Shortest decimals

A binary64 number is shown with as few digits as lead back to it when they are read. The decimals
with a given number of digits form a grid; of the two neighbours of the number on the grid, those
are looked for that round to the number, and the coarsest grid that has one wins. Of two such
neighbours the nearer is taken, and the even one of two that are equally near.
-/

namespace ProviderRegistry.Binary64

/-- Digits, and the power of ten that they are to be multiplied with. -/
structure Decimal where
  digits : Nat
  power : Int
  deriving DecidableEq, Repr

/-- The most digits that are needed. -/
def maxDigits : Nat := 17

/-- The neighbour of a number on the grid of a power of ten, if one rounds to the number. All
quantities are multiples of a quarter of the last bit: the points that round to the number reach
half a bit to both sides, and a quarter downwards where the next number has a lower exponent. -/
def onGrid? (significand : Nat) (exponent power : Int) : Option Nat :=
  let unit := Nat.pow 10 power.toNat * Nat.pow 2 (2 - exponent).toNat
  let quarter := Nat.pow 10 (-power).toNat * Nat.pow 2 (exponent - 2).toNat
  let value := 4 * significand * quarter
  let narrow := significand = fullSignificand ∧ minExponent < exponent
  let low := (4 * significand - if narrow then 1 else 2) * quarter
  let high := (4 * significand + 2) * quarter
  let rounds (c : Nat) : Bool :=
    if significand % 2 = 0 then low ≤ c * unit && c * unit ≤ high
    else low < c * unit && c * unit < high
  let below := value / unit
  match rounds below, rounds (below + 1) with
  | true, true => some (roundDiv value unit)
  | true, false => some below
  | false, true => some (below + 1)
  | false, false => none

/-- How many digits a positive number has before its point; of a number below one, the zeros after
the point count as a lack of digits. -/
def magnitude (significand : Nat) (exponent : Int) : Int :=
  let shift : Nat := 400
  let whole :=
    significand * Nat.pow 10 shift * Nat.pow 2 exponent.toNat / Nat.pow 2 (-exponent).toNat
  ((Nat.toDigits 10 whole).length : Int) - shift

/-- The shortest decimal of a positive number. -/
def shortest (significand : Nat) (exponent : Int) : Decimal :=
  let size := magnitude significand exponent
  let found := (List.range maxDigits).findSome? fun n =>
    let power : Int := size - ((n + 1 : Nat) : Int)
    (onGrid? significand exponent power).map (⟨·, power⟩)
  found.getD ⟨0, 0⟩

/-- The digits without the zeros at their end, and how many digits stand before the point. -/
def Decimal.parts (d : Decimal) : List Char × Int :=
  let digits := Nat.toDigits 10 d.digits
  ((digits.reverse.dropWhile (· == '0')).reverse, digits.length + d.power)

/-- Digits are written with a point, unless it would stand before the first digit by more than
this, or behind it by more than `maxPoint`. -/
def minPoint : Int := -3

@[inherit_doc minPoint]
def maxPoint : Int := 16

/-- An exponent, with its sign and at least two digits. -/
def exponentText (exponent : Int) : List Char :=
  let digits := Nat.toDigits 10 exponent.natAbs
  (if exponent < 0 then '-' else '+') :: (if digits.length < 2 then '0' :: digits else digits)

/-- Digits with a point after the given number of them, or with an exponent. -/
def placePoint (digits : List Char) (point : Int) : List Char :=
  if point < minPoint ∨ maxPoint < point then
    let fraction := if 1 < digits.length then '.' :: digits.drop 1 else []
    digits.take 1 ++ fraction ++ 'e' :: exponentText (point - 1)
  else if point ≤ 0 then '0' :: '.' :: List.replicate (-point).toNat '0' ++ digits
  else
    let whole := digits.take point.toNat
    let fraction := digits.drop point.toNat
    whole ++ List.replicate (point.toNat - digits.length) '0' ++
      '.' :: if fraction.isEmpty then ['0'] else fraction

/-- The number as a text. -/
def text : Binary64 → String
  | .undefined => "nan"
  | .infinite negative => if negative then "-inf" else "inf"
  | .finite negative significand exponent =>
    let sign := if negative then "-" else ""
    if significand = 0 then sign ++ "0.0"
    else
      let (digits, point) := (shortest significand exponent).parts
      sign ++ String.ofList (placePoint digits point)

example : text (ofDecimal false 1 (-1)) = "0.1" := by decide +kernel
example : text (ofDecimal false 15 (-8)) = "1.5e-07" := by decide +kernel
example : text (ofDecimal true 12345678901234567 0) = "-1.2345678901234568e+16" := by
  decide +kernel

end ProviderRegistry.Binary64
