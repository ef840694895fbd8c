import VDiagnostics.Anomaly
import VDiagnostics.Coordinate.Numeral
import VDiagnostics.Output.Line
import VDiagnostics.Path.Source
import VDiagnostics.Record
import VDiagnostics.Text.Letter
import VDiagnostics.Traced

/-! The error layout reports one error per run. Its location is on the first line that names a source
file followed by a colon, and an elaboration may stand on another line. -/

namespace VDiagnostics

namespace ErrorReport

/-- A line with a location contains a source file's ending and the colon after it. -/
def locationMarker : Text :=
  ['.', 'v', ':']

def detailMarker : Text :=
  [' ', '*']

def detailSeparator : Text :=
  [':', '\n']

/-- The first field that ends like a source file. The fields before it are a label. -/
def fileField (fields : List Text) : Nat :=
  (fields.findIdx? fun field => Text.endsWith Path.sourceExtension (Text.trim field)).getD 0

/-- A drive is one letter. -/
def isDrive : Text → Bool
  | [c] => Text.isLetter c
  | _ => false

/-- The file's name. A drive before it was cut off by the colon that separates fields, and is put back
where the rest starts with a slash of either kind. -/
def fileName (fields : List Text) (place : Nat) : Text :=
  let name := Line.field fields place
  let drive := Line.field fields (place - 1)
  let start := (fields.getD place []).head?
  if 0 < place && isDrive drive && (start == some '\\' || start == some '/') then
    drive ++ ':' :: name
  else name

/-- The location that a line gives, with the text after it. -/
def readLocation (raw line : Text) : Traced Anomaly Record :=
  let fields := Line.fields line
  let place := fileField fields
  (Traced.ofExcept (Coordinate.read (Line.field fields (place + 1)))).andThen fun row =>
    (Traced.ofExcept (Coordinate.read (Line.field fields (place + 2)))).andThen fun column =>
      let record : Record :=
        { file := fileName fields place
          line := row
          column := column
          message := Text.trim (fields.drop (place + 3)).flatten
          raw := raw }
      if record.isLocated then .answer record
      else .note (.malformed line Anomaly.notNumeric) record

/-- The first line with an elaboration is added to the message. -/
def elaborate (lines : List Text) (record : Record) : Record :=
  match Text.lineWith? detailMarker lines with
  | none => record
  | some detail => { record with message := record.message ++ detailSeparator ++ Text.trim detail }

/-- The record of a report in which no line has a location. -/
def unlocated (raw : Text) : Record :=
  { file := [], line := .unknown, column := .unknown, message := [], raw := raw }

/-- Recovers exactly one record. -/
def extract (output : Text) : Traced Anomaly Record :=
  let stripped := Text.withoutBlankLines output
  let lines := Text.lines stripped
  let located : Traced Anomaly Record := match Text.lineWith? locationMarker lines with
    | none => Traced.note (.malformed stripped Anomaly.noLocation) (unlocated stripped)
    | some line => readLocation stripped line
  located.map (elaborate lines)

end ErrorReport

end VDiagnostics
