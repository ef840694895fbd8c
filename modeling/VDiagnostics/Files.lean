import VDiagnostics.Fault
import VDiagnostics.Keyed
import VDiagnostics.Path.Source

/-! Folders and the names they list. Links do not exist, so a path is where it says. -/

namespace VDiagnostics

/-- The names in each folder that can be listed. -/
abbrev Files := Keyed (List Text)

namespace Files

def list (files : Files) (folder : Text) : Except Fault (List Text) :=
  match Keyed.find? folder files with
  | some names => .ok names
  | none => .error (.noDirectory folder)

def countSources (files : Files) (folder : Text) : Except Fault Nat :=
  (files.list folder).map Path.countSources

/-- A path exists if it can be listed, or if its folder lists it. -/
def hasPath (files : Files) (path : Text) : Bool :=
  (Keyed.find? path files).isSome ||
    match Keyed.find? (Path.folder path) files with
    | some names => names.elem (Path.baseName path)
    | none => false

end Files

end VDiagnostics
