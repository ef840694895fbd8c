import VDiagnostics.Lint.State

/-! The status bar names the file, says what is going on and counts errors and warnings. A count of
zero and an empty name are left out. -/

namespace VDiagnostics

namespace View

structure StatusBar where
  file : Text
  status : Text
  errors : Int
  warnings : Int
  deriving DecidableEq

namespace StatusBar

def idle : Text := "idle".toList

def linting : Text := "linting".toList

def initial : StatusBar :=
  ⟨[], idle, 0, 0⟩

def set (bar : StatusBar) (file status : Option Text) (errors warnings : Option Int) : StatusBar :=
  ⟨file.getD bar.file, status.getD bar.status, errors.getD bar.errors, warnings.getD bar.warnings⟩

def separator : Text := "  │  ".toList

def text (bar : StatusBar) : Text :=
  separator.intercalate
    ((if bar.file.isEmpty then [] else ["📄 ".toList ++ bar.file]) ++
      ["● ".toList ++ bar.status] ++
      (if bar.errors = 0 then [] else ["❌ ".toList ++ Text.ofInt bar.errors ++ " error(s)".toList]) ++
      (if bar.warnings = 0 then []
        else ["⚠ ".toList ++ Text.ofInt bar.warnings ++ " warning(s)".toList]))

def statusOf : Option Lint.Verdict → Text
  | none => idle
  | some .success => "clean".toList
  | some .failure => "problems found".toList
  | some .skipped => "outside workspace".toList
  | some .invocationFailed => "compiler failed to run".toList

end StatusBar

end View

end VDiagnostics
