import VDiagnostics.Text.Basic
import VDiagnostics.Text.Width.Table

/-! How many cells of a terminal a text takes. Most characters take one; controls and combining marks
take none, and the wide characters of East Asian scripts and most pictures take two. A joiner makes one
picture of two, and a selector makes a picture of a plain character. -/

namespace VDiagnostics

namespace Text

def isIn (ranges : List (Nat × Nat)) (c : Char) : Bool :=
  ranges.any fun (first, last) => first ≤ c.toNat && c.toNat ≤ last

def charWidth (c : Char) : Nat :=
  if 0x20 ≤ c.toNat && c.toNat < 0x7f then 1
  else if isIn wideRanges c then 2
  else if isIn zeroWidthRanges c then 0
  else 1

/-- The character after a joiner is drawn over what stands before it. -/
def joiner : Char := '\u200d'

/-- The character before a selector is drawn as a picture. -/
def pictureSelector : Char := '\ufe0f'

def isWidened (c : Char) : Bool :=
  isIn widenedRanges c

/-- The width of a text that follows the given character. A selector widens a character once. -/
def widthAfter (last : Option Char) : Text → Nat
  | [] => 0
  | c :: rest =>
    if c = joiner then
      match rest with
      | [] => 0
      | _ :: rest => widthAfter last rest
    else if c = pictureSelector then
      (if last.any isWidened then 1 else 0) + widthAfter none rest
    else if charWidth c = 0 then widthAfter last rest
    else charWidth c + widthAfter (some c) rest

def width (text : Text) : Nat :=
  widthAfter none text

/-- Fills a text with spaces up to a width. -/
def padded (cells : Nat) (text : Text) : Text :=
  text ++ List.replicate (cells - width text) ' '

end Text

end VDiagnostics
