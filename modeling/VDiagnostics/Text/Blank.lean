import VDiagnostics.Text.Basic

/-! Blank characters are the white space of Unicode and the four information separators.
Trimming and blank lines are defined by them alone. -/

namespace VDiagnostics

namespace Text

def isBlank (c : Char) : Bool :=
  let n := c.toNat
  (0x09 ≤ n && n ≤ 0x0d) || (0x1c ≤ n && n ≤ 0x20) || n == 0x85 || n == 0xa0 || n == 0x1680 ||
    (0x2000 ≤ n && n ≤ 0x200a) || n == 0x2028 || n == 0x2029 || n == 0x202f || n == 0x205f ||
    n == 0x3000

def trimStart (text : Text) : Text :=
  text.dropWhile isBlank

def trimEnd (text : Text) : Text :=
  (text.reverse.dropWhile isBlank).reverse

def trim (text : Text) : Text :=
  trimEnd (trimStart text)

def isBlankLine (line : Text) : Bool :=
  line.all isBlank

/-- The lines that say something, in their order and untouched. -/
def withoutBlankLines (text : Text) : Text :=
  unlines ((lines text).filter fun line => !isBlankLine line)

end Text

end VDiagnostics
