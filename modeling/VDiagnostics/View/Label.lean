import VDiagnostics.Diagnostic
import VDiagnostics.Path.Relative
import VDiagnostics.Text.Shortcode

/-! How a diagnostic is named to the user: its file as seen from the workspace, then its line and
column as the compiler counts them. -/

namespace VDiagnostics

namespace View

/-- The file of a label; without a root it is left as it is. -/
def labelPath (cwd root file : Text) : Except Fault Text :=
  if root.isEmpty then .ok file else Path.relative cwd file root

def label (cwd root : Text) (diagnostic : Diagnostic) : Except Fault Text := do
  let path ← labelPath cwd root diagnostic.file
  let line ← (diagnostic.start.line.shift 1).label
  let column ← diagnostic.start.character.label
  pure (path ++ ':' :: line ++ ':' :: column)

def severityStyle : Severity → Text
  | .error => "bold red".toList
  | .warning => "bold yellow".toList

/-- A stretch of a text that is shown in a style, from its first character to the one after its last. -/
structure Span where
  first : Nat
  last : Nat
  style : Text
  deriving DecidableEq

structure Line where
  text : Text
  spans : List Span
  deriving DecidableEq

namespace Line

def styled (line : Line) (piece style : Text) : Line :=
  let shown := Text.withoutControls piece
  let start := line.text.length
  ⟨line.text ++ shown, line.spans ++ [⟨start, start + shown.length, style⟩]⟩

def plain (line : Line) (piece : Text) : Line :=
  { line with text := line.text ++ Text.withoutControls piece }

end Line

/-- A diagnostic on one line, with the styles of its parts. -/
def summary (cwd root : Text) (diagnostic : Diagnostic) : Except Fault Line :=
  (label cwd root diagnostic).map fun label =>
    let start : Line := ⟨[], []⟩
    let separator : Text := [':', ' ']
    (((start.styled label "bold".toList).plain separator).styled diagnostic.severity.name
      (severityStyle diagnostic.severity)).plain (separator ++ diagnostic.message)

end View

end VDiagnostics
