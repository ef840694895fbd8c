import VDiagnostics.Path.Basic

/-! Whether a path lies in a folder. Names are compared as wholes, so a neighbour whose name only
begins like the folder's is outside. -/

namespace VDiagnostics

namespace Path

/-- What two lists of names begin with together. -/
def shared : List Text → List Text → List Text
  | first :: firsts, second :: seconds =>
    if first = second then first :: shared firsts seconds else []
  | _, _ => []

/-- The longest path above both, if both start at the root or neither does. It has one slash at its
start, whatever its members have. -/
def common? (first second : Text) : Option Text :=
  if isRooted first != isRooted second then none
  else
    let names := ['/'].intercalate (shared (components first) (components second))
    some (if isRooted first then '/' :: names else names)

/-- A path is within itself and within every folder above it. -/
def isWithin (cwd path root : Text) : Bool :=
  common? (absolute cwd path) (absolute cwd root) == some (absolute cwd root)

end Path

end VDiagnostics
