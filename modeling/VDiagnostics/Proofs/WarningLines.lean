import VDiagnostics.Output.WarningList
import VDiagnostics.Proofs.Trimming

/-! How one line of the warning layout is taken. A line counts by its trimmed form alone, and blank lines
do not count at all, so a whole text is read by what it says line after line. -/

namespace VDiagnostics

namespace Line

private theorem colon_printed : Text.isBlank ':' = false := rfl

theorem field_eq_getD (fields : List Text) (place : Nat) :
    field fields place = (fields.map Text.trim).getD place [] := by
  by_cases inside : place < fields.length
  · simp [field, inside]
  · simp [field, inside]

/-- The fields of a line are trimmed, so they do not see blanks around the line. -/
theorem field_trim (line : Text) (place : Nat) :
    field (fields (Text.trim line)) place = field (fields line) place := by
  rw [field_eq_getD, field_eq_getD, fields, fields, Text.trim_split_trim colon_printed]

theorem length_fields_trim (line : Text) : (fields (Text.trim line)).length = (fields line).length := by
  have same := congrArg List.length (Text.trim_split_trim colon_printed line)
  simpa [fields] using same

/-- A line continues the record before it if it starts with the marker and has too few fields to be one. -/
def Grammar.Continues (grammar : Grammar) (line : Text) : Prop :=
  ((fields line).length : Int) < grammar.minFields ∧ grammar.marker <+: line

instance (grammar : Grammar) (line : Text) : Decidable (grammar.Continues line) :=
  inferInstanceAs (Decidable (_ ∧ _))

theorem Grammar.classify_remark (grammar : Grammar) {line : Text} (remark : line.IsRemark) :
    grammar.classify line = if grammar.Continues line then .continuation (fields line) else .record (fields line) := by
  have said : line.isEmpty = false := List.isEmpty_eq_false_iff.mpr remark.speaks
  have same : (decide (((fields line).length : Int) < grammar.minFields) && Text.startsWith grammar.marker line) =
      decide (grammar.Continues line) := by
    rw [Bool.eq_iff_iff, Bool.and_eq_true, decide_eq_true_iff, decide_eq_true_iff, Text.startsWith,
      List.isPrefixOf_iff_prefix, Continues]
  rw [classify, said, same]
  simp

end Line

namespace WarningList

open Line (Grammar)

theorem takeLine_trim (grammar : Grammar) (raw : Text) (pending : List Pending) (line : Text) :
    takeLine grammar raw pending (Text.trim line) = takeLine grammar raw pending line := by
  simp [takeLine]

private theorem takeLine_blank {line : Text} (blank : Text.trim line = []) (grammar : Grammar) (raw : Text)
    (pending : List Pending) : takeLine grammar raw pending line = .answer pending := by
  simp [takeLine, blank, Grammar.classify]

theorem fold_remarks (grammar : Grammar) (raw : Text) (pending : List Pending) (lines : List Text) :
    Traced.fold (takeLine grammar raw) pending ((lines.map Text.trim).filter (· ≠ [])) =
      Traced.fold (takeLine grammar raw) pending lines := by
  induction lines generalizing pending with
  | nil => rfl
  | cons line rest ih =>
    by_cases blank : Text.trim line = []
    · rw [Traced.fold, takeLine_blank blank, Traced.answer_andThen, ← ih]
      simp [blank]
    · rw [List.map_cons, List.filter_cons_of_pos (by simpa using blank), Traced.fold, takeLine_trim, Traced.fold]
      congr 1
      funext next
      exact ih next

/-- What is recovered depends on what the output says, and not on how its lines are spaced. -/
theorem extract_eq_fold_remarks (grammar : Grammar) (output : Text) :
    extract grammar output =
      (Traced.fold (takeLine grammar output) [] (Text.remarks output)).map fun pending =>
        pending.reverse.map Pending.finish := by
  rw [extract, ← Text.remarks_trim output, Text.remarks, fold_remarks]

variable {grammar : Grammar} {raw : Text}

theorem takeLine_continued {line : Text} (remark : line.IsRemark) (continues : grammar.Continues line)
    (newest : Pending) (older : List Pending) :
    takeLine grammar raw (newest :: older) line =
      .answer ({ newest with continuations := newest.continuations ++ [line] } :: older) := by
  simp only [takeLine, remark.trimmed, grammar.classify_remark remark, if_pos continues]

theorem takeLine_stray {line : Text} (remark : line.IsRemark) (continues : grammar.Continues line) :
    takeLine grammar raw [] line = .note (.orphan line) [] := by
  simp only [takeLine, remark.trimmed, grammar.classify_remark remark, if_pos continues]

theorem takeLine_started {line : Text} (remark : line.IsRemark) (starts : ¬ grammar.Continues line)
    (pending : List Pending) :
    takeLine grammar raw pending line =
      (readRecord grammar raw line (Line.fields line)).map fun record => ⟨record, []⟩ :: pending := by
  simp only [takeLine, remark.trimmed, grammar.classify_remark remark, if_neg starts]

/-- What a line is read as, once both of its coordinates are. -/
theorem readRecord_eq {fields : List Text} {row column : Coordinate}
    (rowRead : Coordinate.read (Line.field fields 2) = .ok row)
    (columnRead : Coordinate.read (Line.field fields 3) = .ok column) (grammar : Grammar) (raw line : Text) :
    readRecord grammar raw line fields =
      let record : Record := ⟨Line.field fields 1, row, column, Line.field fields 4, raw⟩
      ⟨((defect? grammar fields record).map (Anomaly.malformed line)).toList, .ok record⟩ := by
  simp only [readRecord, rowRead, columnRead, Traced.ofExcept, Traced.andThen]
  cases defect? grammar fields ⟨Line.field fields 1, row, column, Line.field fields 4, raw⟩ <;> rfl

theorem readRecord_located {fields : List Text} {row column : Int}
    (rowRead : Coordinate.read (Line.field fields 2) = .ok (.known row))
    (columnRead : Coordinate.read (Line.field fields 3) = .ok (.known column))
    (enough : grammar.minFields ≤ fields.length) (raw line : Text) :
    readRecord grammar raw line fields =
      .answer ⟨Line.field fields 1, .known row, .known column, Line.field fields 4, raw⟩ := by
  have long : ¬ (fields.length : Int) < grammar.minFields := Int.not_lt.mpr enough
  rw [readRecord_eq rowRead columnRead]
  simp [defect?, long, Record.isLocated, Coordinate.isKnown, Traced.answer]

/-- The blank lines of an output count for nothing, so it is read line by line as it stands. -/
theorem extract_eq_fold_lines (grammar : Grammar) (output : Text) :
    extract grammar output =
      (Traced.fold (takeLine grammar output) [] (Text.lines output)).map fun pending =>
        pending.reverse.map Pending.finish := by
  rw [extract_eq_fold_remarks, Text.remarks, fold_remarks]

section Content

/-- A warning in the making, without where it was read. -/
def Pending.content (pending : Pending) : Pending :=
  { pending with record := pending.record.content }

private theorem finish_content (pending : Pending) : pending.content.finish = pending.finish.content := rfl

theorem readRecord_content (grammar : Grammar) (raw line : Text) (fields : List Text) :
    (readRecord grammar raw line fields).map Record.content = readRecord grammar [] line fields := by
  cases rowRead : Coordinate.read (Line.field fields 2) with
  | error fault =>
    simp only [readRecord, rowRead]
    rfl
  | ok row =>
    cases columnRead : Coordinate.read (Line.field fields 3) with
    | error fault =>
      simp only [readRecord, rowRead, columnRead]
      rfl
    | ok column =>
      rw [readRecord_eq rowRead columnRead, readRecord_eq rowRead columnRead]
      rfl

private theorem takeLine_content (grammar : Grammar) (raw : Text) (pending : List Pending) (line : Text) :
    (takeLine grammar raw pending line).map (List.map Pending.content) =
      takeLine grammar [] (pending.map Pending.content) line := by
  unfold takeLine
  cases grammar.classify (Text.trim line) with
  | blank => rfl
  | continuation fields => cases pending <;> rfl
  | record fields =>
    simp only [← readRecord_content grammar raw, Traced.map_map]
    rfl

/-- What is recovered from an output does not depend on the output that it is recovered for. -/
theorem extract_content (grammar : Grammar) (output : Text) :
    (extract grammar output).map (List.map Record.content) =
      (Traced.fold (takeLine grammar []) [] (Text.lines output)).map fun pending =>
        pending.reverse.map Pending.finish := by
  rw [extract_eq_fold_lines]
  have viewed := Traced.fold_map (takeLine_content grammar output) [] (Text.lines output)
  rw [List.map_nil] at viewed
  rw [← viewed, Traced.map_map, Traced.map_map]
  congr 1
  funext pending
  simp [Function.comp_def, finish_content]

end Content

end WarningList

end VDiagnostics
