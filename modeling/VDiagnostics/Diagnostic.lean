import VDiagnostics.Record
import VDiagnostics.Path.Basic

/-! A diagnostic is a record that was given its place: an absolute file and a span of one character,
with lines counted from zero. The compiler does not say how wide a finding is. -/

namespace VDiagnostics

inductive Severity where
  | error
  | warning
  deriving DecidableEq

def Severity.name : Severity → Text
  | error => "error".toList
  | warning => "warning".toList

structure Position where
  line : Coordinate
  character : Coordinate
  deriving DecidableEq

structure Diagnostic where
  file : Text
  start : Position
  stop : Position
  severity : Severity
  message : Text
  deriving DecidableEq

namespace Diagnostic

/-- The tool that every diagnostic names as its source. -/
def source : Text :=
  ['V']

/-- The place of a file that the compiler names from the folder it ran in. -/
def resolve (cwd file : Text) : Text :=
  Path.normalize (Path.join cwd file)

def ofRecord (cwd : Text) (severity : Severity) (record : Record) : Diagnostic where
  file := resolve cwd record.file
  start := ⟨record.line.shift (-1), record.column⟩
  stop := ⟨record.line.shift (-1), record.column.shift 1⟩
  severity := severity
  message := record.message

/-- Whether two diagnostics that were placed independently are the same finding. A coordinate that was
computed anew agrees only where it is known; the column of the start is taken over as it was read. -/
def agrees (first second : Diagnostic) : Bool :=
  first.file == second.file && first.start.line.agrees second.start.line &&
    first.start.character == second.start.character && first.stop.line.agrees second.stop.line &&
    first.stop.character.agrees second.stop.character && first.severity == second.severity &&
    first.message == second.message

end Diagnostic

end VDiagnostics
