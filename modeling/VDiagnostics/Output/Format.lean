import VDiagnostics.Diagnostic
import VDiagnostics.Text.Blank

/-! The compiler prints errors and warnings in two layouts. Which one an output has is judged by its
first seven characters, and an output of at most one character says nothing. -/

namespace VDiagnostics

inductive Format where
  | clean
  | error
  | warning
  deriving DecidableEq

namespace Format

def name : Format → Text
  | clean => "clean".toList
  | error => "error".toList
  | warning => "warning".toList

def warningStart : Text :=
  ['w', 'a', 'r', 'n', 'i', 'n', 'g']

def ofOutput (output : Text) : Format :=
  if (Text.trim output).length ≤ 1 then clean
  else if Text.startsWith warningStart output then warning
  else error

/-- The severity of what an output of this format reports. -/
def severity? : Format → Option Severity
  | clean => none
  | error => some .error
  | warning => some .warning

end Format

end VDiagnostics
