import VDiagnostics.Text.Basic

/-! A text can be broken into lines at every kind of line end, and not at the line feed alone. -/

namespace VDiagnostics

namespace Text

def isLineEnd (c : Char) : Bool :=
  let n := c.toNat
  (0x0a ≤ n && n ≤ 0x0d) || (0x1c ≤ n && n ≤ 0x1e) || n = 0x85 || n = 0x2028 || n = 0x2029

/-- The lines of a text after the given characters of the first one, in reverse. A line end at the end
of the text starts no line. -/
def brokenAfter : Text → Text → List Text
  | [], [] => []
  | reversed, [] => [reversed.reverse]
  | reversed, '\r' :: '\n' :: rest => reversed.reverse :: brokenAfter [] rest
  | reversed, c :: rest =>
    if isLineEnd c then reversed.reverse :: brokenAfter [] rest else brokenAfter (c :: reversed) rest

def broken (text : Text) : List Text :=
  brokenAfter [] text

end Text

end VDiagnostics
