import VDiagnostics.Binary64

/-! The shortest decimal that reads back as a given number, and of several the nearest. The search
goes through the grids of one digit, two digits and so on, and tries the two neighbours of the value on
each. -/

namespace VDiagnostics

namespace Binary64

/-- A decimal: the digits times a power of ten. -/
structure Decimal where
  digits : Nat
  exponent : Int
  deriving DecidableEq

def fraction (mantissa : Nat) (exponent : Int) : Nat × Nat :=
  if exponent < 0 then (mantissa, Nat.pow 2 exponent.natAbs) else (mantissa * Nat.pow 2 exponent.natAbs, 1)

/-- The power of ten of the first digit of a positive quotient. The estimate from the binary length is
at most one too high. -/
def leadingPlace (numerator denominator : Nat) : Int :=
  let estimate : Int :=
    (((numerator.log2 : Int) - denominator.log2 + 1) * 30103 / 100000) + 1
  let reaches (place : Int) : Bool :=
    if place < 0 then denominator ≤ numerator * Nat.pow 10 place.natAbs
    else denominator * Nat.pow 10 place.natAbs ≤ numerator
  if reaches estimate then estimate
  else if reaches (estimate - 1) then estimate - 1
  else estimate - 2

/-- The two neighbours of a quotient among the multiples of a power of ten, the nearer first and in a
tie the even one. -/
def neighbours (numerator denominator : Nat) (place : Int) : List Decimal :=
  let (high, low) :=
    if place < 0 then (numerator * Nat.pow 10 place.natAbs, denominator)
    else (numerator, denominator * Nat.pow 10 place.natAbs)
  let below : Decimal := ⟨high / low, place⟩
  let above : Decimal := ⟨high / low + 1, place⟩
  let rest := high % low
  if rest = 0 then [below]
  else if 2 * rest < low || (2 * rest = low && (high / low) % 2 = 0) then [below, above]
  else [above, below]

def exactDecimal (mantissa : Nat) (exponent : Int) : Decimal :=
  if exponent < 0 then ⟨mantissa * Nat.pow 5 exponent.natAbs, exponent⟩
  else ⟨mantissa * Nat.pow 2 exponent.natAbs, 0⟩

/-- Seventeen digits are always enough, so the exact decimal is never needed; it reads back too. -/
def shortest (mantissa : Nat) (exponent : Int) : Decimal :=
  let (numerator, denominator) := fraction mantissa exponent
  let first := leadingPlace numerator denominator
  let readsBack (decimal : Decimal) : Bool :=
    (ofDecimal false decimal.digits decimal.exponent).magnitude == .finite mantissa exponent
  let candidates := (List.range 17).flatMap fun (more : Nat) =>
    neighbours numerator denominator (first - (more : Int))
  (candidates.find? readsBack).getD (exactDecimal mantissa exponent)

end Binary64

end VDiagnostics
