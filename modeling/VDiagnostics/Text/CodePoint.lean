import VDiagnostics.Text.Quoted

/-! Code points. Settings can hold half of a surrogate pair, which is no character, so their texts are code
points and other texts are the ones without such halves. Reading joins the halves of a pair that stand next to
each other, and writing keeps them apart. -/

namespace VDiagnostics

inductive CodePoint where
  | char (c : Char)
  /-- The first half of a pair, as its offset among the first halves. -/
  | high (offset : Fin 0x400)
  /-- The second half of a pair, as its offset among the second halves. -/
  | low (offset : Fin 0x400)
  deriving DecidableEq

abbrev CodePoints := List CodePoint

namespace CodePoint

def ofUnit (unit : Nat) : CodePoint :=
  if 0xd800 ≤ unit && unit ≤ 0xdbff then .high (Fin.ofNat 0x400 (unit - 0xd800))
  else if 0xdc00 ≤ unit && unit ≤ 0xdfff then .low (Fin.ofNat 0x400 (unit - 0xdc00))
  else .char (Char.ofNat unit)

/-- The character that two halves stand for. -/
def paired (high low : Fin 0x400) : Char :=
  Char.ofNat (0x10000 + high * 0x400 + low)

/-- A code unit as its number in hexadecimal. -/
def unitText (unit : Nat) : Text :=
  '\\' :: 'u' :: Text.Quoted.hex 4 unit

/-- A character by itself, or half of a pair by its number. -/
def display : CodePoint → Text
  | char c => [c]
  | high offset => unitText (0xd800 + offset)
  | low offset => unitText (0xdc00 + offset)

def escape (mark : Char) : CodePoint → Text
  | char c => Text.Quoted.escape mark c
  | half => half.display

end CodePoint

namespace CodePoints

def ofText (text : Text) : CodePoints :=
  text.map .char

/-- The text that the code points are, unless one of them is half of a pair. -/
def text? : CodePoints → Option Text
  | [] => some []
  | .char c :: rest => (text? rest).map (c :: ·)
  | _ :: _ => none

/-- Joins every first half to the second half behind it. -/
def join : CodePoints → CodePoints
  | .high high :: .low low :: rest => .char (CodePoint.paired high low) :: join rest
  | point :: rest => point :: join rest
  | [] => []

def display (points : CodePoints) : Text :=
  points.flatMap CodePoint.display

/-- Halves of a pair are no quotes, so the mark goes by the characters alone. -/
def quoted (points : CodePoints) : Text :=
  let mark := Text.Quoted.mark (points.flatMap CodePoint.display)
  mark :: points.flatMap (CodePoint.escape mark) ++ [mark]

end CodePoints

end VDiagnostics
