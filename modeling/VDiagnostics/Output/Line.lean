import VDiagnostics.Text.Blank

/-! Lines of the output and their fields. Fields stand between colons, and a line of the warning layout
starts a record, continues one or is blank. -/

namespace VDiagnostics

namespace Line

def fields (line : Text) : List Text :=
  Text.split ':' line

/-- The trimmed field at a place; a line that is too short has blank fields there. -/
def field (fields : List Text) (place : Nat) : Text :=
  Text.trim (fields.getD place [])

/-- There are no fields before the first. -/
def fieldAt (fields : List Text) (place : Int) : Text :=
  if 0 ≤ place then field fields place.toNat else []

/-- What tells a line that continues a record from one that starts it. -/
structure Grammar where
  minFields : Int
  marker : Text
  deriving DecidableEq

def Grammar.standard : Grammar :=
  ⟨5, ['*']⟩

inductive Kind where
  | record (fields : List Text)
  | continuation (fields : List Text)
  | blank
  deriving DecidableEq

/-- A line that starts with the marker and has too few fields for a record continues the one before. The
line is taken as trimmed. -/
def Grammar.classify (grammar : Grammar) (line : Text) : Kind :=
  if line.isEmpty then .blank
  else if ((fields line).length : Int) < grammar.minFields && Text.startsWith grammar.marker line then
    .continuation (fields line)
  else .record (fields line)

end Line

end VDiagnostics
