import VDiagnostics.Text.Blank

/-! What came of a compiler run. Diagnostics are on the error stream, but some failures show up on the
other one only. -/

namespace VDiagnostics

structure Compiled where
  stdout : Text
  stderr : Text
  code : Int
  /-- Why the compiler could not be started at all. -/
  refusal : Option Text
  deriving DecidableEq

namespace Compiled

def refused (reason : Text) : Compiled :=
  ⟨[], [], 0, some reason⟩

def failedToRun (compiled : Compiled) : Bool :=
  compiled.refusal.isSome

def output (compiled : Compiled) : Text :=
  if compiled.code ≠ 0 || 1 < (Text.trim compiled.stderr).length then
    if compiled.stderr.isEmpty then compiled.stdout else compiled.stderr
  else []

end Compiled

end VDiagnostics
