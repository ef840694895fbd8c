import VDiagnostics.Proofs.AddedLines
import VDiagnostics.Proofs.RelativePaths
import VDiagnostics.View.Label

/-! The label of a diagnostic says where the compiler found it. Its path leads from the folder that the compiler ran in
to the file, and its numbers are those that were read. -/

namespace VDiagnostics

namespace Coordinate

/-- A coordinate as it is written in a label. -/
def shown : Coordinate → Text
  | known value => Text.ofInt value
  | unknown => ['?']

/-- What is read is short enough to be printed. -/
theorem label_of_read {text : Text} {coordinate : Coordinate} (found : read text = .ok coordinate) :
    coordinate.label = .ok coordinate.shown := by
  rw [read_eq_digits] at found
  split at found
  next =>
    obtain rfl := Except.ok.inj found
    rfl
  next filled =>
    split at found
    next => cases found
    next short =>
      obtain rfl := Except.ok.inj found
      have printed := Text.length_ofNat_digitsValue (by simpa using filled)
      have size : (if (splitSign (Text.trimStart text)).1 then -(Text.digitsValue (digits text) : Int)
          else Text.digitsValue (digits text)).natAbs = Text.digitsValue (digits text) := by
        split <;> simp
      have within : ¬ digitLimit < (Text.ofNat (Text.digitsValue (digits text))).length := by omega
      rw [label, size, if_neg within]
      rfl

end Coordinate

/-- A record that one of the two layouts gives for some output. -/
inductive Record.IsRecovered : Record → Prop where
  | error {output record} (read : (ErrorReport.extract output).result = .ok record) : IsRecovered record
  | warning {grammar output found record} (read : (WarningList.extract grammar output).result = .ok found)
      (member : record ∈ found) : IsRecovered record

namespace Record

/-- A place whose line and column were both read from some text. -/
def IsRead (record : Record) : Prop :=
  (∃ text, Coordinate.read text = .ok record.line) ∧ ∃ text, Coordinate.read text = .ok record.column

end Record

namespace ErrorReport

private theorem isRead_extract {output : Text} {record : Record} (read : (extract output).result = .ok record) :
    record.IsRead := by
  rw [extract_eq_readFrom] at read
  obtain ⟨plain, found, rfl⟩ := Traced.map_result_ok read
  rw [Record.IsRead, elaborate_line, elaborate_column]
  cases located : Text.lineWith? locationMarker (Text.lines output) with
  | none =>
    rw [located] at found
    obtain rfl := Except.ok.inj found
    exact ⟨⟨[], rfl⟩, [], rfl⟩
  | some line =>
    rw [located] at found
    have gives := (readLocation_ok found).1
    exact ⟨⟨_, gives.line⟩, _, gives.column⟩

end ErrorReport

theorem WarningList.isRead_extract {grammar : Line.Grammar} {output : Text} {found : List Record} {record : Record}
    (read : (extract grammar output).result = .ok found) (member : record ∈ found) : record.IsRead := by
  have placed : record.location ∈ locations grammar (Text.lines output) := by
    rw [← extract_locations read]
    exact List.mem_map_of_mem member
  obtain ⟨line, _, given⟩ := List.mem_filterMap.mp placed
  unfold location? at given
  split at given
  next fields =>
    split at given
    next row column rowRead columnRead =>
      obtain ⟨_, rfl, rfl⟩ : _ ∧ row = record.line ∧ column = record.column := by
        simpa [Record.location] using given
      exact ⟨⟨_, rowRead⟩, _, columnRead⟩
    next => cases given
  next => cases given

theorem Record.IsRecovered.isRead {record : Record} (recovered : record.IsRecovered) : record.IsRead := by
  cases recovered with
  | error read => exact ErrorReport.isRead_extract read
  | warning read member => exact WarningList.isRead_extract read member

namespace View

open VDiagnostics.Path (Rooted)

/-- Line and column are shown as they were read: what was taken off the line is put on again. -/
theorem label_ofRecord {here cwd path : Text} {record : Record} (severity : Severity) (filled : cwd ≠ [])
    (read : record.IsRead) (seen : Path.relative here (Diagnostic.resolve cwd record.file) cwd = .ok path) :
    label here cwd (Diagnostic.ofRecord cwd severity record) =
      .ok (path ++ ':' :: record.line.shown ++ ':' :: record.column.shown) := by
  obtain ⟨⟨_, row⟩, _, column⟩ := read
  have back : (record.line.shift (-1)).shift 1 = record.line := by
    rw [Coordinate.shift_shift, Int.add_left_neg, Coordinate.shift_zero]
  have file : labelPath here cwd (Diagnostic.resolve cwd record.file) = .ok path := by
    rw [labelPath, List.isEmpty_eq_false_iff.mpr filled]
    exact seen
  simp only [label, Diagnostic.ofRecord, file, back, Coordinate.label_of_read row, Coordinate.label_of_read column]
  rfl

/-- A label has the record's line and column as they were read, and a path that leads back to the diagnostic's file.
What the compiler printed in the shortest way, and below its folder, is shown as it was printed. -/
theorem label_leads_back {cwd : Text} {record : Record} (rooted : Path.isRooted cwd) (recovered : record.IsRecovered)
    (folderSlashes : Path.rootSlashes cwd ≠ 2) (fileSlashes : Path.rootSlashes record.file ≠ 2) (here : Text)
    (severity : Severity) :
    ∃ path, label here cwd (Diagnostic.ofRecord cwd severity record) =
        .ok (path ++ ':' :: record.line.shown ++ ':' :: record.column.shown) ∧
      Diagnostic.resolve cwd path = (Diagnostic.ofRecord cwd severity record).file ∧
      (Path.isRooted record.file = false → Path.normalize record.file = record.file →
        ['.', '.'] ∉ Path.components record.file → path = record.file) := by
  let goal := Rooted.ofPath (Path.join cwd record.file) (Path.isRooted_join rooted record.file)
  have filled : cwd ≠ [] := by
    rintro rfl
    cases rooted
  have single : goal.slashes = 1 := Path.rootSlashes_join_eq_one rooted folderSlashes fileSlashes
  refine ⟨_, label_ofRecord severity filled recovered.isRead (Path.relative_rooted rooted here goal), ?_, ?_⟩
  · exact Path.normalize_join_steps rooted (Path.rootSlashes_eq_one rooted folderSlashes) single
  · exact Path.spell_steps_join rooted

/-- A folder that is spelled the long way, and a column that is no number. -/
theorem label_leads_back_unknown :
    let output := "cc: lib/a.v:03:?: oops".toList
    let cwd := "/w//x/../".toList
    ∃ record, (ErrorReport.extract output).result = .ok record ∧
      label ['/'] cwd (Diagnostic.ofRecord cwd .error record) = .ok "lib/a.v:3:?".toList ∧
      Diagnostic.resolve cwd record.file = "/w/lib/a.v".toList := by
  intro output cwd
  have read : (ErrorReport.extract output).result =
      .ok ⟨"lib/a.v".toList, .known 3, .unknown, "oops".toList, output⟩ := by decide +kernel
  have rooted : Path.isRooted cwd := by decide
  obtain ⟨path, labelled, _, kept⟩ := label_leads_back rooted (.error read) (by decide) (by decide) ['/'] .error
  obtain rfl := kept (by decide) (by decide) (by decide)
  exact ⟨_, read, labelled, by decide⟩

end View

end VDiagnostics
