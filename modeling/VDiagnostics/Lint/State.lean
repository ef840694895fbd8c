import VDiagnostics.Keyed
import VDiagnostics.Lint.Result

/-! What is shown to the user: how the latest run ended, and the diagnostics as they stood after the
latest run that changed them. -/

namespace VDiagnostics

namespace Lint

structure State where
  document : Text
  workspace : Text
  output : Text
  verdict : Option Verdict
  diagnostics : Keyed (List Diagnostic)
  errorMessage : Text
  deriving DecidableEq

namespace State

def initial (workspace : Text) : State :=
  ⟨[], workspace, [], none, [], []⟩

/-- All diagnostics, by code point order of their files. -/
def all (state : State) : List Diagnostic :=
  (Keyed.sorted state.diagnostics).flatMap Prod.snd

def count (state : State) (severity : Severity) : Nat :=
  state.all.countP fun diagnostic => diagnostic.severity == severity

def errorCount (state : State) : Nat :=
  state.count .error

def warningCount (state : State) : Nat :=
  state.count .warning

def hasErrors (state : State) : Bool :=
  0 < state.errorCount

/-- Takes over a result. One without a compiler run leaves the output and the diagnostics in place. -/
def update (state : State) (result : Result) (entries : Keyed (List Diagnostic)) : State :=
  let noted :=
    { state with
      document := result.document
      verdict := some result.verdict
      errorMessage := result.error.getD [] }
  if result.verdict = .invocationFailed then noted
  else { noted with output := result.output, diagnostics := entries }

end State

end Lint

end VDiagnostics
