import VDiagnostics.Path.Basic
import VDiagnostics.Fault

/-! The way from one folder to a path: up to the last folder that both share, then down. -/

namespace VDiagnostics

namespace Path

/-- The names of a normal path, with dots and all. -/
def names (path : Text) : List Text :=
  (Text.split '/' path).filter (· ≠ [])

/-- Drops what both lists begin with; what is left of the first is climbed, the rest is descended. -/
def steps : List Text → List Text → List Text
  | here :: start, next :: goal =>
    if here = next then steps start goal
    else List.replicate (start.length + 1) ['.', '.'] ++ next :: goal
  | start, goal => List.replicate start.length ['.', '.'] ++ goal

/-- The spelling of a path as seen from a folder; the folder itself is a dot. -/
def relative (cwd path start : Text) : Except Fault Text :=
  if path.isEmpty then .error .noPath
  else .ok (spell 0 (steps (names (absolute cwd start)) (names (absolute cwd path))))

end Path

end VDiagnostics
