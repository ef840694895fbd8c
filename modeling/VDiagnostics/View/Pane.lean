import VDiagnostics.Text.LineEnd

/-! The pane for raw output keeps a text as lines. It breaks them at every kind of line end, and gives
the text back with one kind throughout. -/

namespace VDiagnostics

namespace View

namespace Pane

/-- A pane shows an empty line after a line feed or carriage return at the end, and when it is empty. -/
def lines (text : Text) : List Text :=
  match text.getLast? with
  | none | some '\n' | some '\r' => Text.broken text ++ [[]]
  | _ => Text.broken text

def lineEnd (text : Text) : Text :=
  if Text.contains ['\r', '\n'] text then ['\r', '\n']
  else if text.elem '\n' then ['\n']
  else if text.elem '\r' then ['\r']
  else ['\n']

/-- The text that a pane has after it was given one. -/
def text (given : Text) : Text :=
  (lineEnd given).intercalate (lines given)

end Pane

end View

end VDiagnostics
