/-!
# Binary64 numbers

The numbers of the interchange format with 64 bits, as values: a finite one is a **significand** of
up to 53 bits times a power of two. A positive ratio is rounded to the nearest of them, and to the
even significand where two are equally near. Sums and products are the exact results, rounded once.
-/

namespace ProviderRegistry

/-- A number with 64 bits. The finite ones have either 53 bits in their significand or the least
exponent. -/
inductive Binary64 where
  | finite (negative : Bool) (significand : Nat) (exponent : Int)
  | infinite (negative : Bool)
  | undefined
  deriving DecidableEq, Repr

namespace Binary64

/-- The least exponent of a finite number. -/
def minExponent : Int := -1074

/-- The greatest exponent of a finite number. -/
def maxExponent : Int := 971

/-- The least significand with all its bits. -/
def fullSignificand : Nat := Nat.pow 2 52

/-- The whole number nearest to a ratio, the even one of two. -/
def roundDiv (n d : Nat) : Nat :=
  let twice := 2 * (n % d)
  if twice < d then n / d
  else if d < twice then n / d + 1
  else n / d + n / d % 2

/-- A ratio divided by a power of two. -/
def scaled (n d : Nat) (exponent : Int) : Nat × Nat :=
  (n * Nat.pow 2 (-exponent).toNat, d * Nat.pow 2 exponent.toNat)

/-- The exponent that leaves 53 bits before the point of a positive ratio, or the least
exponent. -/
def exponentOf (n d : Nat) : Int :=
  let guess : Int := (n.log2 : Int) - d.log2 - 52
  let (a, b) := scaled n d guess
  max minExponent (if a < b * fullSignificand then guess - 1 else guess)

/-- The number nearest to a ratio with a sign. -/
def ofRatio (negative : Bool) (n d : Nat) : Binary64 :=
  if n = 0 then .finite negative 0 minExponent
  else
    let exponent := exponentOf n d
    let (a, b) := scaled n d exponent
    let significand := roundDiv a b
    let (significand, exponent) :=
      if significand = 2 * fullSignificand then (fullSignificand, exponent + 1)
      else (significand, exponent)
    if maxExponent < exponent then .infinite negative else .finite negative significand exponent

/-- The number nearest to a whole number. -/
def ofInt (n : Int) : Binary64 := ofRatio (n < 0) n.natAbs 1

/-- Powers of ten beyond this one lead out of the range of the finite numbers, or below the least
one, whatever digit is in front. -/
def maxPower : Nat := 400

/-- The number nearest to digits times a power of ten. -/
def ofDecimal (negative : Bool) (digits : Nat) (power : Int) : Binary64 :=
  if digits = 0 then ofRatio negative 0 1
  else if (maxPower : Int) < power then .infinite negative
  else if power + digits.log2 + 1 < -(maxPower : Int) then ofRatio negative 0 1
  else ofRatio negative (digits * Nat.pow 10 power.toNat) (Nat.pow 10 (-power).toNat)

/-- The number with the other sign. -/
def neg : Binary64 → Binary64
  | .finite negative significand exponent => .finite (!negative) significand exponent
  | .infinite negative => .infinite !negative
  | .undefined => .undefined

/-- A significand with its sign. -/
def signed (negative : Bool) (n : Nat) : Int := if negative then -n else n

/-- The sum of two numbers. Zeros of different signs, and numbers that cancel out, make zero. -/
def add : Binary64 → Binary64 → Binary64
  | .finite s m e, .finite t n f =>
    let least := min e f
    let total := signed s (m * Nat.pow 2 (e - least).toNat) +
      signed t (n * Nat.pow 2 (f - least).toNat)
    ofRatio (if total = 0 then s && t else total < 0)
      (total.natAbs * Nat.pow 2 least.toNat) (Nat.pow 2 (-least).toNat)
  | .infinite s, .infinite t => if s = t then .infinite s else .undefined
  | .infinite s, .finite .. => .infinite s
  | .finite .., .infinite t => .infinite t
  | _, _ => .undefined

/-- The product of two numbers. -/
def mul : Binary64 → Binary64 → Binary64
  | .finite s m e, .finite t n f =>
    let exponent := e + f
    ofRatio (s != t) (m * n * Nat.pow 2 exponent.toNat) (Nat.pow 2 (-exponent).toNat)
  | .infinite s, .infinite t => .infinite (s != t)
  | .infinite s, .finite t n _ => if n = 0 then .undefined else .infinite (s != t)
  | .finite s m _, .infinite t => if m = 0 then .undefined else .infinite (s != t)
  | _, _ => .undefined

/-- The number is a zero of either sign. -/
def isZero : Binary64 → Bool
  | .finite _ significand _ => significand = 0
  | _ => false

/-- The number is equal to a whole number. -/
def equalsInt (x : Binary64) (n : Int) : Bool :=
  match x with
  | .finite negative significand exponent =>
    signed negative (significand * Nat.pow 2 exponent.toNat) = n * Nat.pow 2 (-exponent).toNat
  | _ => false

/-- The numbers are equal; zeros are, whatever their signs. -/
def equals (x y : Binary64) : Bool := x = y || (x.isZero && y.isZero)

example : ofDecimal false 15 (-1) = .finite false 6755399441055744 (-52) := by decide +kernel
example : ofDecimal false 1 400 = .infinite false := by decide +kernel
example : ofDecimal true 1 (-500) = .finite true 0 minExponent := by decide +kernel

end Binary64

end ProviderRegistry
