import VDiagnostics.Anomaly
import VDiagnostics.Coordinate.Numeral
import VDiagnostics.Output.Line
import VDiagnostics.Record
import VDiagnostics.Traced

/-! The warning layout lists any number of warnings. Elaboration lines belong to the warning before
them, by the order of lines alone. -/

namespace VDiagnostics

namespace WarningList

open Line (Grammar)

/-- A warning and the elaboration lines that came so far, in their order. -/
structure Pending where
  record : Record
  continuations : List Text

def continuationStart : Text :=
  ['\n', ' ']

def Pending.finish (pending : Pending) : Record :=
  { pending.record with
    message := pending.record.message ++ pending.continuations.flatMap (continuationStart ++ ·) }

/-- Why a line is no proper warning, if it is not. -/
def defect? (grammar : Grammar) (fields : List Text) (record : Record) : Option Text :=
  if (fields.length : Int) < grammar.minFields then
    some (Anomaly.fieldsMissing grammar.minFields fields.length)
  else if record.isLocated then none
  else some Anomaly.notNumeric

/-- The fields of a warning are its label, file, line, column and message. -/
def readRecord (grammar : Grammar) (raw line : Text) (fields : List Text) : Traced Anomaly Record :=
  (Traced.ofExcept (Coordinate.read (Line.field fields 2))).andThen fun row =>
    (Traced.ofExcept (Coordinate.read (Line.field fields 3))).andThen fun column =>
      let record : Record :=
        { file := Line.field fields 1
          line := row
          column := column
          message := Line.field fields 4
          raw := raw }
      match defect? grammar fields record with
      | none => .answer record
      | some reason => .note (.malformed line reason) record

/-- Takes one line more. The newest warning comes first. -/
def takeLine (grammar : Grammar) (raw : Text) (pending : List Pending) (line : Text) :
    Traced Anomaly (List Pending) :=
  match grammar.classify (Text.trim line) with
  | .blank => .answer pending
  | .continuation _ =>
    match pending with
    | [] => .note (.orphan (Text.trim line)) []
    | newest :: older =>
      .answer ({ newest with continuations := newest.continuations ++ [Text.trim line] } :: older)
  | .record fields =>
    (readRecord grammar raw (Text.trim line) fields).map fun record => ⟨record, []⟩ :: pending

/-- Recovers one record for each line that starts a warning. -/
def extract (grammar : Grammar) (output : Text) : Traced Anomaly (List Record) :=
  (Traced.fold (takeLine grammar output) [] (Text.lines (Text.trim output))).map fun pending =>
    pending.reverse.map Pending.finish

end WarningList

end VDiagnostics
