import VDiagnostics.Path.Basic

/-! What a V source file looks like. A path is judged by the suffix of its last name, a folder's
listing by how the names end. -/

namespace VDiagnostics

namespace Path

def sourceExtension : Text :=
  ['.', 'v']

/-- The last dot of a name and what follows, unless the dot is the first or the last character. -/
def suffix (name : Text) : Text :=
  let reversed := name.reverse
  let extension := reversed.takeWhile (· ≠ '.')
  match reversed.dropWhile (· ≠ '.') with
  | '.' :: stem => if stem.isEmpty || extension.isEmpty then [] else '.' :: extension.reverse
  | _ => []

def isSource (path : Text) : Bool :=
  suffix ((components path).getLast?.getD []) == sourceExtension

def countSources (names : List Text) : Nat :=
  names.countP (Text.endsWith sourceExtension)

end Path

end VDiagnostics
