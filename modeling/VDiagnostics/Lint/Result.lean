import VDiagnostics.Output.Format
import VDiagnostics.Fault

/-! What one run found, and how it ended. -/

namespace VDiagnostics

namespace Lint

inductive Verdict where
  | success
  | failure
  | skipped
  | invocationFailed
  deriving DecidableEq

namespace Verdict

def name : Verdict → Text
  | success => "success".toList
  | failure => "failure".toList
  | skipped => "skipped".toList
  | invocationFailed => "invocation_failed".toList

def all : List Verdict :=
  [success, failure, skipped, invocationFailed]

def ofName (text : Text) : Except Fault Verdict :=
  match all.find? fun verdict => verdict.name == text with
  | some verdict => .ok verdict
  | none => .error (.unknownOutcome text)

def failed : Verdict → Bool
  | success | skipped => false
  | failure | invocationFailed => true

theorem ofName_name (verdict : Verdict) : ofName verdict.name = .ok verdict := by
  cases verdict <;> rfl

end Verdict

structure Result where
  document : Text
  verdict : Verdict
  format : Option Format
  diagnostics : List Diagnostic
  output : Text
  error : Option Text
  deriving DecidableEq

namespace Result

def failed (result : Result) : Bool :=
  result.verdict.failed

/-- A run that never reached the compiler's output. -/
def without (document : Text) (verdict : Verdict) (error : Option Text) : Result :=
  ⟨document, verdict, none, [], [], error⟩

end Result

end Lint

end VDiagnostics
