import VDiagnostics.Proofs.ErrorLines

/-! What an error keeps of its report. Its raw text is the report without the blank lines, which gives the same error
and the same notes when it is read once more. Reports that differ in any other line leave different errors. -/

namespace VDiagnostics

namespace ErrorReport

variable {output raw line : Text} {record : Record}

/-- A report is read from what is left of it, so all that leave the same are read alike. -/
private theorem extract_congr {first second : Text}
    (same : Text.withoutBlankLines first = Text.withoutBlankLines second) :
    extract first = extract second := by
  simp only [extract, same]

private theorem readLocation_raw (read : (readLocation raw line).result = .ok record) : record.raw = raw := by
  obtain ⟨row, rowRead, later⟩ := Traced.andThen_result_ok read
  obtain ⟨column, columnRead, _⟩ := Traced.andThen_result_ok later
  have whole := readLocation_eq rowRead columnRead raw
  obtain rfl := Except.ok.inj ((congrArg Traced.result whole).symm.trans read)
  rfl

private theorem readFrom_raw {located : Option Text} (read : (readFrom raw located).result = .ok record) :
    record.raw = raw := by
  cases located with
  | none =>
    obtain rfl := Except.ok.inj read
    rfl
  | some line => exact readLocation_raw read

private theorem raw_of_read (read : (extract output).result = .ok record) :
    record.raw = Text.withoutBlankLines output := by
  rw [extract_eq_readFrom] at read
  obtain ⟨plain, told, rfl⟩ := Traced.map_result_ok read
  rw [elaborate_raw]
  exact readFrom_raw told

/-- Blank lines are all that an error does not tell of its report. -/
theorem extract_eq_iff {other : Text} (read : (extract output).result = .ok record) :
    extract other = extract output ↔ Text.spoken other = Text.spoken output := by
  rw [← Text.withoutBlankLines_eq_iff]
  refine ⟨fun same => ?_, extract_congr⟩
  rw [← raw_of_read read]
  rw [← same] at read
  exact (raw_of_read read).symm

/-- Taking out the blank lines leaves nothing to take out and loses nothing that is said, and only a blank report is
left empty. What is left is read as the report was, with the same notes and the same fault if it has one. So an error
is read again from its raw text. -/
theorem stripped_reads_alike (output : Text) :
    let stripped := Text.withoutBlankLines output
    stripped.IsDense ∧ (stripped = [] ↔ Text.isBlankLine output) ∧
      Text.withoutBlankLines stripped = stripped ∧
      Text.spoken stripped = Text.spoken output ∧
      extract stripped = extract output ∧
      ∀ record, (extract output).result = .ok record →
        record.raw = stripped ∧ (extract record.raw).result = .ok record := by
  intro stripped
  have dense : stripped.IsDense := Text.isDense_withoutBlankLines output
  have fixed : Text.withoutBlankLines stripped = stripped := Text.withoutBlankLines_eq_self_iff.mpr dense
  have alike : extract stripped = extract output := extract_congr fixed
  refine ⟨dense, Text.withoutBlankLines_eq_nil_iff, fixed, Text.spoken_withoutBlankLines output, alike,
    fun record read => ?_⟩
  have kept : record.raw = stripped := raw_of_read read
  exact ⟨kept, by rw [kept, alike, read]⟩

/-- Blank lines of several kinds around a location without a number for its column, which keeps the carriage return at
its end. -/
theorem stripped_reads_alike_returns :
    let output := "\n\r\ncc: C:\\a.v:3:?: bad \r\n\t\n * more\n ".toList
    let line := "cc: C:\\a.v:3:?: bad \r".toList
    let raw := Text.unlines [line, " * more".toList]
    let record : Record := ⟨"C:\\a.v".toList, .known 3, .unknown, "bad:\n* more".toList, raw⟩
    (extract output).result = .ok record ∧ Text.spoken output = [line, " * more".toList] ∧
      (extract raw).result = .ok record ∧ (extract raw).trace = [.malformed line Anomaly.notNumeric] := by
  intro output line raw record
  obtain ⟨_, _, _, spoken, alike, again⟩ := stripped_reads_alike output
  have left : Text.withoutBlankLines output = raw := by decide
  have read : (extract output).result = .ok record := by decide +kernel
  have noted : (extract output).trace = [.malformed line Anomaly.notNumeric] := by decide +kernel
  rw [left] at spoken alike
  exact ⟨read, spoken.symm.trans (by decide), (again record read).2, (congrArg Traced.trace alike).trans noted⟩

end ErrorReport

end VDiagnostics
