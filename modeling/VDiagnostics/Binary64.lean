/-! Binary numbers of 64 bits: a sign, eleven bits of exponent and 52 bits of fraction. Decimals are
rounded to them in exact arithmetic, to the nearest one and in a tie to the even one. -/

namespace VDiagnostics

structure Binary64 where
  bits : UInt64
  deriving DecidableEq

namespace Binary64

/-- The smallest positive number is two to this power. -/
def minExponent : Int := -1074

/-- What the bits of infinity without a sign are worth. -/
def infinityBits : Nat := 2047 * Nat.pow 2 52

inductive Magnitude where
  | finite (mantissa : Nat) (exponent : Int)
  | infinite
  | notANumber
  deriving DecidableEq

def isNegative (number : Binary64) : Bool :=
  Nat.pow 2 63 ≤ number.bits.toNat

def magnitude (number : Binary64) : Magnitude :=
  let unsigned := number.bits.toNat % Nat.pow 2 63
  let exponent : Nat := unsigned / Nat.pow 2 52
  let fraction : Nat := unsigned % Nat.pow 2 52
  if exponent = 2047 then (if fraction = 0 then .infinite else .notANumber)
  else if exponent = 0 then .finite fraction minExponent
  else .finite (Nat.pow 2 52 + fraction) ((exponent : Int) - 1 + minExponent)

def signed (negative : Bool) (unsigned : Nat) : Binary64 :=
  ⟨UInt64.ofNat (if negative then Nat.pow 2 63 + unsigned else unsigned)⟩

def infinity (negative : Bool) : Binary64 :=
  signed negative infinityBits

def notANumber : Binary64 :=
  signed false (infinityBits + Nat.pow 2 51)

/-- A quotient rounded to the nearest integer, a half to the even neighbour. -/
def roundedQuotient (numerator denominator : Nat) : Nat :=
  let quotient := numerator / denominator
  let rest := numerator % denominator
  if 2 * rest < denominator then quotient
  else if denominator < 2 * rest then quotient + 1
  else quotient + quotient % 2

def scaled (numerator denominator : Nat) (exponent : Int) : Nat × Nat :=
  if exponent < 0 then (numerator * Nat.pow 2 exponent.natAbs, denominator)
  else (numerator, denominator * Nat.pow 2 exponent.natAbs)

/-- The exponent whose unit leaves 53 bits of a positive quotient, but none below the smallest. -/
def unitExponent (numerator denominator : Nat) : Int :=
  let estimate : Int := (numerator.log2 : Int) - denominator.log2
  let (high, low) := scaled numerator denominator estimate
  max minExponent ((if high < low then estimate - 1 else estimate) - 52)

/-- The bits of a positive quotient without its sign, if its units are rounded in the given way. Rounding
up may carry into the exponent, which is just what the layout of the bits does. -/
def quotientBits (round : Nat → Nat → Nat) (numerator denominator : Nat) : Nat :=
  let exponent := unitExponent numerator denominator
  let (high, low) := scaled numerator denominator exponent
  (exponent - minExponent).toNat * Nat.pow 2 52 + round high low

/-- The number nearest to a positive quotient, without its sign. -/
def nearestQuotient (numerator denominator : Nat) : Nat :=
  min infinityBits (quotientBits roundedQuotient numerator denominator)

/-- The number nearest to `digits` times a power of ten. Powers far outside the range are decided by
the place of the first digit alone. -/
def ofDecimal (negative : Bool) (digits : Nat) (exponent : Int) : Binary64 :=
  let size : Int := (Nat.toDigits 10 digits).length + exponent
  if digits = 0 || size < -400 then signed negative 0
  else if 400 < size then infinity negative
  else if exponent < 0 then signed negative (nearestQuotient digits (Nat.pow 10 exponent.natAbs))
  else signed negative (nearestQuotient (digits * Nat.pow 10 exponent.natAbs) 1)

def ofInt (value : Int) : Binary64 :=
  ofDecimal (value < 0) value.natAbs 0

def quotientAbove (numerator denominator : Nat) : Nat :=
  (numerator + denominator - 1) / denominator

/-- The greatest number that is no more than an integer. -/
def reachedBy (value : Int) : Binary64 :=
  if value = 0 then signed false 0
  else if value < 0 then signed true (min infinityBits (quotientBits quotientAbove value.natAbs 1))
  else signed false (min (infinityBits - 1) (quotientBits (· / ·) value.natAbs 1))

def toFloat (number : Binary64) : Float :=
  Float.ofBits number.bits

end Binary64

end VDiagnostics
