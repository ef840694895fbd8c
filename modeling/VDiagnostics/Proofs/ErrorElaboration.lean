import VDiagnostics.Proofs.Legibility

/-! What elaborates an error. Location and elaboration are looked for in the same lines, one search not minding the
other, so the line with the location is its own elaboration where it has the marker. -/

namespace VDiagnostics

/-- A search finds the one line that may have the marker, or nothing. -/
theorem Text.lineWith?_only {marker line : Text} {before after : List Text}
    (plain : ∀ other ∈ before ++ after, contains marker other = false) :
    lineWith? marker (before ++ line :: after) = if contains marker line then some line else none := by
  obtain ⟨early, late⟩ := List.forall_mem_append.mp plain
  rw [lineWith?_skip early]
  cases found : contains marker line with
  | true => exact List.find?_cons_of_pos found
  | false =>
    have passed : lineWith? marker (line :: after) = lineWith? marker after :=
      List.find?_cons_of_neg (by simp [found])
    rw [passed]
    simpa [lineWith?, List.find?_eq_none] using late

namespace ErrorReport

/-- What a line with a location says behind the column, without the colons. -/
def said (line : Text) : Text :=
  let fields := Line.fields line
  Text.trim (fields.drop (fileField fields + 3)).flatten

private theorem readLocation_message {raw line : Text} {record : Record}
    (read : (readLocation raw line).result = .ok record) : record.message = said line :=
  (readLocation_ok read).1.message

/-- What is added to the message of an error whose other lines elaborate nothing. -/
def ownDetail (line : Text) : Text :=
  if Text.contains detailMarker line then [':', '\n'] ++ Text.trim line else []

private theorem elaborate_only {line : Text} {before after : List Text}
    (plain : ∀ other ∈ before ++ after, Text.contains detailMarker other = false) (record : Record) :
    elaborate (before ++ line :: after) record = { record with message := record.message ++ ownDetail line } := by
  rw [elaborate, Text.lineWith?_only plain, ownDetail]
  cases Text.contains detailMarker line
  · simp
  · simp [detailSeparator]

/-- An error says what its location line says, and nothing besides, exactly where that line does not have the
marker of an elaboration; else the whole line is said once more. The other lines have no marker, and no numeral of
the line is too long. -/
theorem message_of_own_line_iff {output line : Text} {before after : List Text}
    (cut : Text.lines (Text.withoutBlankLines output) = before ++ line :: after)
    (located : Text.contains locationMarker line)
    (first : ∀ earlier ∈ before, Text.contains locationMarker earlier = false)
    (plain : ∀ other ∈ before ++ after, Text.contains detailMarker other = false) :
    ((extract output).result.isOk ↔ ∀ numeral ∈ numerals output, Coordinate.IsLegible numeral) ∧
      ∀ record, (extract output).result = .ok record →
        record.message = said line ++ ownDetail line ∧
        (record.message = said line ↔ Text.contains detailMarker line = false) := by
  refine ⟨(reads_extract output).isOk_iff, fun record read => ?_⟩
  have found : Text.lineWith? locationMarker (before ++ line :: after) = some line := by
    rw [Text.lineWith?_skip first]
    exact List.find?_cons_of_pos located
  simp only [extract, cut, found] at read
  obtain ⟨plainly, told, rfl⟩ := Traced.map_result_ok read
  have silent : ownDetail line = [] ↔ Text.contains detailMarker line = false := by
    rw [ownDetail]
    cases Text.contains detailMarker line <;> simp
  rw [elaborate_only plain, readLocation_message told]
  exact ⟨rfl, List.append_right_eq_self.trans silent⟩

/-- Colons and stars in a message, between a remark and another error. -/
theorem message_of_own_line_iff_starred :
    let output := "V 0.4\n\nC:/w/a.v:3:1: a*b: no *c:d \n \nb.v:1:2: y".toList
    let line := "C:/w/a.v:3:1: a*b: no *c:d ".toList
    ∃ record, (extract output).result = .ok record ∧ said line = "a*b no *cd".toList ∧
      record.message = "a*b no *cd:\nC:/w/a.v:3:1: a*b: no *c:d".toList ∧ record.message ≠ said line := by
  intro output line
  have cut : Text.lines (Text.withoutBlankLines output) = ["V 0.4".toList] ++ line :: ["b.v:1:2: y".toList] := by
    decide +kernel
  obtain ⟨legible, messages⟩ := message_of_own_line_iff cut (by decide +kernel) (by decide) (by decide)
  have answered : (extract output).result.isOk := legible.mpr (by decide +kernel)
  cases read : (extract output).result with
  | error fault => simp [read, Except.isOk, Except.toBool] at answered
  | ok record =>
    obtain ⟨whole, alone⟩ := messages record read
    have spoken : said line = "a*b no *cd".toList := by decide +kernel
    refine ⟨record, rfl, spoken, ?_, fun same => absurd (alone.mp same) (by decide +kernel)⟩
    rw [whole, spoken]
    decide +kernel

/-- A product in a message makes the error its own elaboration. -/
theorem product_taken_for_elaboration :
    let line := "a.v:1:2: x * y".toList
    Text.lines (Text.withoutBlankLines line) = [line] ∧ Text.contains locationMarker line ∧ said line = "x * y".toList ∧
      ∃ record, (extract line).result = .ok record ∧ record.message = "x * y:\na.v:1:2: x * y".toList := by
  intro line
  have read : (extract line).result =
      .ok ⟨"a.v".toList, .known 1, .known 2, "x * y:\na.v:1:2: x * y".toList, line⟩ := by decide +kernel
  exact ⟨by decide, by decide, by decide +kernel, _, read, rfl⟩

end ErrorReport

end VDiagnostics
