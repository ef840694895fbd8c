import VDiagnostics.Text.Blank
import VDiagnostics.Text.Cluster

/-! Bringing a line into a column. A line that is too wide is broken between words, and what is still
too wide ends with dots. -/

namespace VDiagnostics

namespace Text

/-- The words of a line, each with the blanks after it. The first one also has those before it. -/
def words (line : Text) : List Text :=
  match line.splitBy fun c next => !isBlank c || isBlank next with
  | first :: second :: rest =>
    if first.all isBlank then (first ++ second) :: rest else first :: second :: rest
  | pieces => pieces

/-- Puts words on lines, after a line that is not full yet. The blanks at the end of a word may be too
much for the line. -/
def wrapWords (cells : Nat) (line : Text) (used : Nat) : List Text → List Text
  | [] => [line]
  | word :: rest =>
    if used + width (trimEnd word) ≤ cells then wrapWords cells (line ++ word) (used + width word) rest
    else line :: wrapWords cells word (width word) rest

/-- Takes blanks from the end of a line as long as it has more characters than the column has cells. -/
def withoutExcess (cells : Nat) (line : Text) : Text :=
  let blanks := (line.reverse.takeWhile isBlank).length
  line.take (line.length - min blanks (line.length - cells))

def wrapped (cells : Nat) (line : Text) : List Text :=
  match words line with
  | [] => [[]]
  | word :: rest => (wrapWords cells word (width word) rest).map (withoutExcess cells)

def fitted (cells : Nat) (line : Text) : Text :=
  padded cells (if cells < width line then cropped (cells - 1) line ++ ['…'] else padded cells line)

end Text

end VDiagnostics
