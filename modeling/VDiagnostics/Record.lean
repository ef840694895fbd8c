import VDiagnostics.Coordinate

/-! A record is what the compiler said about one place, in its own terms: lines count from one, and
the file is named as the compiler names it. -/

namespace VDiagnostics

structure Record where
  file : Text
  line : Coordinate
  column : Coordinate
  message : Text
  /-- The output that the record was recovered from. -/
  raw : Text
  deriving DecidableEq

namespace Record

/-- What a record says, without where it was read. -/
def content (record : Record) : Record :=
  { record with raw := [] }

def isLocated (record : Record) : Bool :=
  record.line.isKnown && record.column.isKnown

theorem isLocated_iff {record : Record} : record.isLocated ↔ record.line ≠ .unknown ∧ record.column ≠ .unknown := by
  rw [isLocated, Bool.and_eq_true]
  cases record.line <;> cases record.column <;> simp [Coordinate.isKnown]

end Record

end VDiagnostics
