import VDiagnostics.Text.Basic

/-! Paths by their spelling alone. No name is looked up, so a path means the same on every machine and
links do not exist. -/

namespace VDiagnostics

namespace Path

/-- The names between the slashes without the empty ones and the dots that stay in place. -/
def components (path : Text) : List Text :=
  (Text.split '/' path).filter fun name => name ≠ [] && name ≠ ['.']

def isRooted (path : Text) : Bool :=
  path.head? == some '/'

/-- How many slashes a normal spelling starts with: two stay two, and more are as good as one. -/
def rootSlashes : Text → Nat
  | '/' :: '/' :: '/' :: _ => 1
  | '/' :: '/' :: _ => 2
  | '/' :: _ => 1
  | _ => 0

/-- Takes one name more onto a stack of names. Two dots take the name below away; they vanish at the
root and pile up where there is none. -/
def climb (rooted : Bool) (below : List Text) (name : Text) : List Text :=
  if name = ['.', '.'] then
    match below with
    | [] => if rooted then [] else [name]
    | last :: rest => if last = ['.', '.'] then name :: below else rest
  else name :: below

/-- The spelling of a list of names; the place that has none is a dot. -/
def spell (slashes : Nat) (names : List Text) : Text :=
  match List.replicate slashes '/' ++ ['/'].intercalate names with
  | [] => ['.']
  | path => path

def normalNames (path : Text) : List Text :=
  ((components path).foldl (climb (isRooted path)) []).reverse

/-- The shortest spelling without empty names, dots and needless climbs. -/
def normalize (path : Text) : Text :=
  spell (rootSlashes path) (normalNames path)

/-- A rooted path stands for itself, and any other continues the folder. -/
def join (folder path : Text) : Text :=
  if isRooted path then path
  else if folder.isEmpty || folder.getLast? == some '/' then folder ++ path
  else folder ++ '/' :: path

/-- The normal spelling of a path that is meant from the working folder. -/
def absolute (cwd path : Text) : Text :=
  normalize (join cwd path)

/-- The place that a path means from the working folder. A rooted path has one slash at its start there,
however many it was written with. -/
def place (cwd path : Text) : Text :=
  if isRooted path then spell 1 (normalNames path) else absolute cwd path

/-- What follows the last slash. -/
def baseName (path : Text) : Text :=
  (path.reverse.takeWhile (· ≠ '/')).reverse

/-- What stands before the last slash, without slashes at its end unless it is nothing else. -/
def folder (path : Text) : Text :=
  let upToSlash := path.reverse.dropWhile (· ≠ '/')
  match upToSlash.dropWhile (· = '/') with
  | [] => upToSlash
  | name => name.reverse

end Path

end VDiagnostics
