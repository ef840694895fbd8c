import VDiagnostics.Output.ErrorReport
import VDiagnostics.Output.Format
import VDiagnostics.Output.WarningList

/-! From the compiler's output to records and diagnostics. The format picks the layout to read and the
severity to give. -/

namespace VDiagnostics

namespace Extraction

def records (output : Text) : Traced Anomaly (Format × List Record) :=
  match Format.ofOutput output with
  | .clean => .answer (.clean, [])
  | .error => (ErrorReport.extract output).map fun record => (.error, [record])
  | .warning => (WarningList.extract .standard output).map fun records => (.warning, records)

/-- The records of an output of some format, each at its place. -/
def place (cwd : Text) (format : Format) (records : List Record) : List Diagnostic :=
  match format.severity? with
  | none => []
  | some severity => records.map (Diagnostic.ofRecord cwd severity)

def diagnostics (cwd output : Text) : Traced Anomaly (Format × List Diagnostic) :=
  (records output).map fun (format, found) => (format, place cwd format found)

/-- Whether two outputs were read as the same records. -/
def sameRecords (first second : Format × List Record) : Bool :=
  first.1 == second.1 && first.2.map Record.content == second.2.map Record.content

/-- Whether the lists have one length and agree place by place. -/
def allAgree : List Diagnostic → List Diagnostic → Bool
  | [], [] => true
  | first :: firsts, second :: seconds => first.agrees second && allAgree firsts seconds
  | _, _ => false

def sameDiagnostics (first second : Format × List Diagnostic) : Bool :=
  first.1 == second.1 && allAgree first.2 second.2

end Extraction

end VDiagnostics
