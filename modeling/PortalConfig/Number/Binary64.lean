/-!
# Floating-point numbers of 64 bits

A `Binary64` is a bit pattern: sign, eleven bits of exponent, fifty-two of significand. A finite
one stands for `significand * 2 ^ exponent`, and all arithmetic here is exact arithmetic on
natural numbers followed by one rounding, `ofRatio`: to the nearest representable number, a tie
going to the one with the even significand.
-/

namespace PortalConfig

/-- A floating-point number, by its bit pattern. -/
structure Binary64 where
  bits : UInt64
deriving DecidableEq

namespace Binary64

/-- The bit pattern without the sign. -/
def magnitude (x : Binary64) : Nat := x.bits.toNat % Nat.pow 2 63

/-- The sign bit. -/
def isNegative (x : Binary64) : Bool := decide (Nat.pow 2 63 ≤ x.bits.toNat)

/-- The pattern of the infinities, without the sign. -/
def infinityMagnitude : Nat := 2047 * Nat.pow 2 52

def isFinite (x : Binary64) : Bool := decide (x.magnitude < infinityMagnitude)

def isInfinite (x : Binary64) : Bool := x.magnitude == infinityMagnitude

def isZero (x : Binary64) : Bool := x.magnitude == 0

/-- A number from its sign and the rest of its pattern. -/
def ofMagnitude (negative : Bool) (magnitude : Nat) : Binary64 :=
  ⟨UInt64.ofNat (magnitude + if negative then Nat.pow 2 63 else 0)⟩

def zero (negative : Bool) : Binary64 := ofMagnitude negative 0

def infinity (negative : Bool) : Binary64 := ofMagnitude negative infinityMagnitude

/-- The quiet "not a number" without a sign. -/
def nan : Binary64 := ⟨0x7FF8000000000000⟩

/-- The whole-number factor of a finite number. -/
def significand (x : Binary64) : Nat :=
  if x.magnitude < Nat.pow 2 52 then x.magnitude else x.magnitude % Nat.pow 2 52 + Nat.pow 2 52

/-- The power of two that the significand is multiplied by. -/
def exponent (x : Binary64) : Int :=
  if x.magnitude < Nat.pow 2 52 then -1074 else (x.magnitude / Nat.pow 2 52 : Nat) - 1075

/-- The absolute value of a finite number as numerator and denominator. -/
def ratio (x : Binary64) : Nat × Nat :=
  (x.significand * Nat.pow 2 x.exponent.toNat, Nat.pow 2 (-x.exponent).toNat)

/-- `num / den` divided by `2 ^ e`, again as numerator and denominator. -/
def shiftRatio (num den : Nat) (e : Int) : Nat × Nat :=
  (num * Nat.pow 2 (-e).toNat, den * Nat.pow 2 e.toNat)

/-- The quotient rounded to a whole number, a tie to the even neighbour. -/
def divideToEven (num den : Nat) : Nat :=
  let quotient := num / den
  let twice := 2 * (num % den)
  if den < twice ∨ (twice = den ∧ quotient % 2 = 1) then quotient + 1 else quotient

/-- The bit pattern, without sign, of the number nearest to a positive ratio: the exponent is
chosen so that the rounded quotient has fifty-three bits, or is the least one there is. -/
def nearestMagnitude (num den : Nat) : Nat :=
  let guess : Int := (num.log2 : Int) - den.log2 - 52
  let (n, d) := shiftRatio num den guess
  let e := max (if n / d < Nat.pow 2 52 then guess - 1 else guess) (-1074)
  let (n, d) := shiftRatio num den e
  min ((e + 1074).toNat * Nat.pow 2 52 + divideToEven n d) infinityMagnitude

/-- The number nearest to `num / den`. -/
def ofRatio (negative : Bool) (num den : Nat) : Binary64 :=
  ofMagnitude negative (if num = 0 then 0 else nearestMagnitude num den)

def ofNat (n : Nat) : Binary64 := ofRatio false n 1

/-- The product of two finite numbers, rounded once. -/
def mul (x y : Binary64) : Binary64 :=
  let (n, d) := x.ratio
  let (n', d') := y.ratio
  ofRatio (x.isNegative != y.isNegative) (n * n') (d * d')

/-- The quotient of two finite numbers, the second not zero, rounded once. -/
def div (x y : Binary64) : Binary64 :=
  let (n, d) := x.ratio
  let (n', d') := y.ratio
  ofRatio (x.isNegative != y.isNegative) (n * d') (d * n')

/-- The number with the opposite sign. -/
def neg (x : Binary64) : Binary64 := ofMagnitude (!x.isNegative) x.magnitude

/-- Equality as numbers: the two zeros are equal. -/
def equal (x y : Binary64) : Bool := x == y || (x.isZero && y.isZero)

/-- The number nearest to `± digits * 10 ^ exponent`. Exponents far outside the range of the
format are answered without computing the power. -/
def ofDecimal (negative : Bool) (digits : Nat) (exponent : Int) : Binary64 :=
  let size : Int := (Nat.toDigits 10 digits).length
  if digits = 0 then zero negative
  else if exponent + size > 400 then infinity negative
  else if exponent + size < -400 then zero negative
  else ofRatio negative (digits * Nat.pow 10 exponent.toNat) (Nat.pow 10 (-exponent).toNat)

end Binary64

end PortalConfig
