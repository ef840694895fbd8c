import VDiagnostics.Output.ErrorReport
import VDiagnostics.Proofs.LineSearch
import VDiagnostics.Proofs.Numerals

/-! How the error layout finds its places: the file among the fields of a line, and the location and the
elaboration among the lines of a report. -/

namespace VDiagnostics

namespace Line

private theorem field_append_right (front rest : List Text) (place : Nat) :
    field (front ++ rest) (front.length + place) = field rest place := by
  simp [field, List.getD_eq_getElem?_getD, List.getElem?_append_right]

theorem fields_flatMap {front : List Text} (colonless : ∀ field ∈ front, ':' ∉ field) (rest : Text) :
    fields (front.flatMap (· ++ [':']) ++ rest) = front ++ fields rest := by
  induction front with
  | nil => rfl
  | cons first others ih =>
    obtain ⟨head, tail⟩ := List.forall_mem_cons.mp colonless
    have spelled : (first :: others).flatMap (· ++ [':']) ++ rest =
        first ++ ':' :: (others.flatMap (· ++ [':']) ++ rest) := by simp
    rw [spelled, fields, Text.split_append_cons head, ← fields, ih tail, List.cons_append]

end Line

namespace ErrorReport

def namesSource (field : Text) : Bool :=
  Text.endsWith Path.sourceExtension (Text.trim field)

/-- The file is in the first field that names a source, whatever stands before and after. -/
theorem fileField_append {front : List Text} {name : Text} (label : ∀ field ∈ front, namesSource field = false)
    (source : namesSource name) (rest : List Text) : fileField (front ++ name :: rest) = front.length := by
  have found : (front ++ name :: rest).findIdx? namesSource = some front.length := by
    induction front with
    | nil => simp [List.findIdx?_cons, source]
    | cons first others ih =>
      obtain ⟨head, tail⟩ := List.forall_mem_cons.mp label
      simp [List.findIdx?_cons, head, ih tail]
  rw [fileField]
  exact congrArg (·.getD 0) found

/-- Whether a text starts like a path on a drive. -/
def isSlashed (name : Text) : Bool :=
  name.head? == some '\\' || name.head? == some '/'

theorem fileName_first (name : Text) (rest : List Text) : fileName (name :: rest) 0 = Text.trim name := by
  simp [fileName, Line.field]

theorem fileName_after (front : List Text) (drive name : Text) (rest : List Text) :
    fileName (front ++ drive :: name :: rest) (front.length + 1) =
      if isDrive (Text.trim drive) && isSlashed name then Text.trim drive ++ ':' :: Text.trim name
      else Text.trim name := by
  simp [fileName, isSlashed, Line.field]

/-- Once both numbers are read a line gives its record, and is noted where one of them is missing. -/
theorem readLocation_eq {line : Text} {row column : Coordinate}
    (rowRead : Coordinate.read (Line.field (Line.fields line) (fileField (Line.fields line) + 1)) = .ok row)
    (columnRead : Coordinate.read (Line.field (Line.fields line) (fileField (Line.fields line) + 2)) = .ok column)
    (raw : Text) :
    readLocation raw line =
      ⟨if row = .unknown ∨ column = .unknown then [.malformed line Anomaly.notNumeric] else [],
        .ok ⟨fileName (Line.fields line) (fileField (Line.fields line)), row, column,
          Text.trim ((Line.fields line).drop (fileField (Line.fields line) + 3)).flatten, raw⟩⟩ := by
  simp only [readLocation, rowRead, columnRead, Traced.ofExcept, Traced.andThen]
  cases row <;> cases column <;> rfl

theorem readLocation_located {front message : List Text} {line name : Text} {row column : Int}
    (cut : Line.fields line = front ++ name :: Text.ofInt row :: Text.ofInt column :: message)
    (label : ∀ field ∈ front, namesSource field = false) (source : namesSource name)
    (rowShort : Coordinate.IsShort row) (columnShort : Coordinate.IsShort column) (raw : Text) :
    readLocation raw line =
      .answer ⟨fileName (Line.fields line) front.length, .known row, .known column,
        Text.trim message.flatten, raw⟩ := by
  have place : fileField (Line.fields line) = front.length := by
    rw [cut, fileField_append label source]
  have rowRead : Coordinate.read (Line.field (Line.fields line) (front.length + 1)) = .ok (.known row) := by
    rw [cut, Line.field_append_right, Line.field, List.getD_cons_succ, List.getD_cons_zero, Text.trim_ofInt]
    exact Coordinate.read_ofInt rowShort
  have columnRead : Coordinate.read (Line.field (Line.fields line) (front.length + 2)) = .ok (.known column) := by
    rw [cut, Line.field_append_right, Line.field, List.getD_cons_succ, List.getD_cons_succ, List.getD_cons_zero,
      Text.trim_ofInt]
    exact Coordinate.read_ofInt columnShort
  have said : (Line.fields line).drop (front.length + 3) = message := by
    rw [cut, List.drop_length_add_append]
    rfl
  rw [← place] at rowRead columnRead
  rw [readLocation_eq rowRead columnRead, place, said]
  rfl

/-- The record that the fields of a line with a location stand for: the file, the two numbers behind it, and what
comes after them. -/
structure Gives (fields : List Text) (record : Record) : Prop where
  file : record.file = fileName fields (fileField fields)
  line : Coordinate.read (Line.field fields (fileField fields + 1)) = .ok record.line
  column : Coordinate.read (Line.field fields (fileField fields + 2)) = .ok record.column
  message : record.message = Text.trim (fields.drop (fileField fields + 3)).flatten

/-- A line that is read gives its record, and is noted where a number is missing. -/
theorem readLocation_ok {raw line : Text} {record : Record} (read : (readLocation raw line).result = .ok record) :
    Gives (Line.fields line) record ∧
      (readLocation raw line).trace =
        if record.line = .unknown ∨ record.column = .unknown then [.malformed line Anomaly.notNumeric] else [] := by
  obtain ⟨row, rowRead, later⟩ := Traced.andThen_result_ok read
  obtain ⟨column, columnRead, _⟩ := Traced.andThen_result_ok later
  have whole := readLocation_eq rowRead columnRead raw
  obtain rfl := Except.ok.inj ((congrArg Traced.result whole).symm.trans read)
  exact ⟨⟨rfl, rowRead, columnRead, rfl⟩, congrArg Traced.trace whole⟩

/-- An elaboration changes the message and nothing else. -/
@[simp] theorem elaborate_file (lines : List Text) (record : Record) : (elaborate lines record).file = record.file := by
  unfold elaborate
  split <;> rfl

@[simp] theorem elaborate_line (lines : List Text) (record : Record) : (elaborate lines record).line = record.line := by
  unfold elaborate
  split <;> rfl

@[simp] theorem elaborate_column (lines : List Text) (record : Record) :
    (elaborate lines record).column = record.column := by
  unfold elaborate
  split <;> rfl

@[simp] theorem elaborate_raw (lines : List Text) (record : Record) : (elaborate lines record).raw = record.raw := by
  unfold elaborate
  split <;> rfl

/-- The record of the line with the location, or the one that a report without such a line gives. -/
def readFrom (raw : Text) : Option Text → Traced Anomaly Record
  | none => .note (.malformed raw Anomaly.noLocation) (unlocated raw)
  | some line => readLocation raw line

/-- The blank lines of a report count for nothing, so it is searched as it stands. -/
theorem extract_eq_readFrom (output : Text) :
    extract output =
      (readFrom (Text.withoutBlankLines output) (Text.lineWith? locationMarker (Text.lines output))).map
        (elaborate (Text.lines output)) := by
  have place := @Text.lineWith?_withoutBlankLines locationMarker (by decide) output
  have detail := @Text.lineWith?_withoutBlankLines detailMarker (by decide) output
  have explained : elaborate (Text.lines (Text.withoutBlankLines output)) = elaborate (Text.lines output) := by
    funext record
    simp only [elaborate, detail]
  simp only [extract, place, explained]
  cases Text.lineWith? locationMarker (Text.lines output) <;> rfl

/-- A report is read from the first of its lines with a location, and elaborated by the first with an
elaboration. -/
theorem extract_unlines {written : List Text} {line : Text} {record : Record}
    (whole : ∀ line ∈ written, '\n' ∉ line) (located : Text.lineWith? locationMarker written = some line)
    (read : readLocation (Text.withoutBlankLines (Text.unlines written)) line = .answer record) :
    extract (Text.unlines written) = .answer (elaborate written record) := by
  have present : written ≠ [] := List.ne_nil_of_mem (List.mem_of_find?_eq_some located)
  rw [extract_eq_readFrom, Text.lines_unlines present whole, located, readFrom, read, Traced.map_answer]

end ErrorReport

end VDiagnostics
