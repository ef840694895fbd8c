import VDiagnostics.Fault

/-! Lines and columns as the compiler prints them, or unknown where it printed none. An unknown
coordinate stays unknown under every shift and is shown as a question mark. -/

namespace VDiagnostics

inductive Coordinate where
  | known (value : Int)
  | unknown
  deriving DecidableEq

namespace Coordinate

def isKnown : Coordinate → Bool
  | known _ => true
  | unknown => false

def shift (distance : Int) : Coordinate → Coordinate
  | known value => known (value + distance)
  | unknown => unknown

/-- Two coordinates that were computed independently agree only where both are known. -/
def agrees : Coordinate → Coordinate → Bool
  | known first, known second => first == second
  | _, _ => false

/-- The text of a coordinate for the reader of a report. -/
def label : Coordinate → Except Fault Text
  | unknown => .ok ['?']
  | known value =>
    if digitLimit < (Text.ofNat value.natAbs).length then .error .numberTooLarge
    else .ok (Text.ofInt value)

@[simp] theorem shift_shift (first second : Int) (coordinate : Coordinate) :
    (coordinate.shift first).shift second = coordinate.shift (first + second) := by
  cases coordinate <;> simp [shift, Int.add_assoc]

@[simp] theorem shift_zero (coordinate : Coordinate) : coordinate.shift 0 = coordinate := by
  cases coordinate <;> simp [shift]

end Coordinate

end VDiagnostics
