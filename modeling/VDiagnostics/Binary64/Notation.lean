import VDiagnostics.Binary64.Shortest
import VDiagnostics.Text.Basic

/-! How a binary number is written: its shortest digits, positional while the first digit stands from
four places after the point to sixteen before it, and with an exponent otherwise. -/

namespace VDiagnostics

namespace Binary64

/-- The first digit's power of ten in positional notation. -/
def positionalPlaces : Int × Int := (-4, 15)

/-- At least two digits, with a sign in any case. -/
def exponentText (exponent : Int) : Text :=
  let digits := Text.ofNat exponent.natAbs
  (if exponent < 0 then '-' else '+') :: List.replicate (2 - digits.length) '0' ++ digits

/-- Digits with a point at some place, which may lie outside of them. -/
def positional (digits : Text) (place : Int) : Text :=
  if place < 0 then '0' :: '.' :: List.replicate (place.natAbs - 1) '0' ++ digits
  else
    let whole := place.toNat + 1
    if digits.length ≤ whole then
      digits ++ List.replicate (whole - digits.length) '0' ++ ['.', '0']
    else digits.take whole ++ '.' :: digits.drop whole

def scientific (digits : Text) (place : Int) : Text :=
  match digits with
  | [] => []
  | [digit] => digit :: 'e' :: exponentText place
  | digit :: rest => digit :: '.' :: rest ++ 'e' :: exponentText place

/-- Zeros at the end of the digits say nothing beyond the place of the first digit. -/
def withoutTrailingZeros (digits : Text) : Text :=
  (digits.reverse.dropWhile (· = '0')).reverse

def ofDecimalText (decimal : Decimal) : Text :=
  let allDigits := Text.ofNat decimal.digits
  let place : Int := allDigits.length - 1 + decimal.exponent
  let digits := withoutTrailingZeros allDigits
  if positionalPlaces.1 ≤ place && place ≤ positionalPlaces.2 then positional digits place
  else scientific digits place

/-- The words for what is no finite number, which differ between formats. -/
structure Words where
  infinity : Text
  notANumber : Text

def text (words : Words) (number : Binary64) : Text :=
  match number.magnitude with
  | .notANumber => words.notANumber
  | .infinite => signText ++ words.infinity
  | .finite 0 _ => signText ++ ['0', '.', '0']
  | .finite mantissa exponent => signText ++ ofDecimalText (shortest mantissa exponent)
where
  signText : Text := if number.isNegative then ['-'] else []

end Binary64

end VDiagnostics
