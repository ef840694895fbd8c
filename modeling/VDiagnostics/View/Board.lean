import VDiagnostics.Path.Relative
import VDiagnostics.View.Pane
import VDiagnostics.View.Report
import VDiagnostics.View.StatusBar

/-! The board is what the screen shows of the latest state: the status bar, the table of diagnostics
and the raw output. Either the table or the output is in view. -/

namespace VDiagnostics

namespace View

structure Board where
  bar : StatusBar
  rows : List Row
  raw : Text
  showsTable : Bool
  deriving DecidableEq

namespace Board

def initial : Board :=
  ⟨StatusBar.initial, [], Pane.text [], true⟩

/-- The board while the first run for a document is under way. -/
def opening (cwd workspace document : Text) : Except Fault Board :=
  (Path.relative cwd (Path.absolute cwd document) workspace).map fun file =>
    { initial with bar := initial.bar.set (some file) (some StatusBar.linting) none none }

def await (board : Board) : Board :=
  { board with bar := board.bar.set none (some StatusBar.linting) none none }

def toggle (board : Board) : Board :=
  { board with showsTable := !board.showsTable }

/-- What the output pane is given: why the compiler did not run, or else what it said. -/
def rawText (state : Lint.State) : Text :=
  if state.errorMessage.isEmpty then state.output else state.errorMessage

/-- Shows a state. Nothing of what the table held before is left. -/
def deliver (cwd : Text) (board : Board) (state : Lint.State) : Except Fault Board :=
  (Row.ofDiagnostics cwd state.workspace state.all).map fun rows =>
    { board with
      rows := rows
      raw := Pane.text (rawText state)
      bar := board.bar.set none (some (StatusBar.statusOf state.verdict))
        (some state.errorCount) (some state.warningCount) }

end Board

end View

end VDiagnostics
