import VDiagnostics.Diagnostic
import VDiagnostics.Fault
import VDiagnostics.Keyed

/-! A collection holds the diagnostics of each file that has any, in the order in which the files came.
A disposed collection is empty for ever and refuses every change. -/

namespace VDiagnostics

structure Collection where
  name : Text
  entries : Keyed (List Diagnostic)
  disposed : Bool
  deriving DecidableEq

namespace Collection

def empty (name : Text) : Collection :=
  ⟨name, [], false⟩

def get (collection : Collection) (path : Text) : List Diagnostic :=
  (Keyed.find? path collection.entries).getD []

def contains (collection : Collection) (path : Text) : Bool :=
  (Keyed.find? path collection.entries).isSome

def paths (collection : Collection) : List Text :=
  Keyed.keys collection.entries

def size (collection : Collection) : Nat :=
  collection.entries.length

def change (collection : Collection)
    (f : Keyed (List Diagnostic) → Keyed (List Diagnostic)) : Except Fault Collection :=
  if collection.disposed then .error (.disposed collection.name)
  else .ok { collection with entries := f collection.entries }

/-- Replaces the diagnostics of a file. A file without any has no entry. -/
def set (collection : Collection) (path : Text) (diagnostics : List Diagnostic) :
    Except Fault Collection :=
  collection.change fun entries =>
    if diagnostics.isEmpty then Keyed.remove path entries else Keyed.put path diagnostics entries

def append (collection : Collection) (path : Text) (diagnostic : Diagnostic) :
    Except Fault Collection :=
  collection.change fun entries =>
    Keyed.put path ((Keyed.find? path entries).getD [] ++ [diagnostic]) entries

def delete (collection : Collection) (path : Text) : Except Fault Collection :=
  collection.change (Keyed.remove path)

def clear (collection : Collection) : Except Fault Collection :=
  collection.change fun _ => []

def dispose (collection : Collection) : Collection :=
  { collection with entries := [], disposed := true }

end Collection

end VDiagnostics
