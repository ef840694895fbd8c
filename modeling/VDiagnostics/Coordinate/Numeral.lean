import VDiagnostics.Coordinate
import VDiagnostics.Text.Blank
import VDiagnostics.Text.DecimalDigit

/-! A coordinate is written as an integer at the start of a field: blanks, at most one sign, then the
longest run of decimal digits of any script. What follows the run is ignored. -/

namespace VDiagnostics

namespace Coordinate

/-- Splits off a leading sign; the flag is set for a minus. -/
def splitSign : Text → Bool × Text
  | '-' :: rest => (true, rest)
  | '+' :: rest => (false, rest)
  | text => (false, text)

/-- Unknown where no integer starts the text. A run beyond the digit limit is a fault and is not cut. -/
def read (text : Text) : Except Fault Coordinate :=
  let (negative, rest) := splitSign (Text.trimStart text)
  let digits := rest.takeWhile Text.isDecimalDigit
  if digits.isEmpty then .ok unknown
  else if digitLimit < digits.length then .error (.numeralTooLong digits.length)
  else
    let magnitude : Int := Text.digitsValue digits
    .ok (known (if negative then -magnitude else magnitude))

end Coordinate

end VDiagnostics
