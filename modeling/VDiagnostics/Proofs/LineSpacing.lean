import VDiagnostics.Proofs.ErrorLines
import VDiagnostics.Proofs.Formats

/-! Blanks at the ends of lines and blank lines between them change nothing in what is recovered. The line
ends of another system are such blanks. -/

namespace VDiagnostics

namespace Text

/-- Lines with blanks at their ends and blank lines among them. -/
inductive Respaced : List Text → List Text → Prop where
  | done : Respaced [] []
  | blank {blanks lines spaced} (padding : blanks.IsPadding) (rest : Respaced lines spaced) :
      Respaced lines (blanks :: spaced)
  | line {line blanks lines spaced} (padding : blanks.IsPadding) (rest : Respaced lines spaced) :
      Respaced (line :: lines) ((line ++ blanks) :: spaced)

/-- A text with blanks at the ends of its lines, and with blank lines anywhere behind the first line. -/
def IsRespacing (text spaced : Text) : Prop :=
  ∃ first rest blanks others, lines text = first :: rest ∧ blanks.IsPadding ∧ Respaced rest others ∧
    spaced = unlines ((first ++ blanks) :: others)

namespace Respaced

variable {lines spaced : List Text}

theorem single (respaced : Respaced lines spaced) (whole : ∀ line ∈ lines, '\n' ∉ line) :
    ∀ line ∈ spaced, '\n' ∉ line := by
  induction respaced with
  | done => exact whole
  | blank padding rest ih => exact List.forall_mem_cons.mpr ⟨padding.single, ih whole⟩
  | line padding rest ih =>
    obtain ⟨first, others⟩ := List.forall_mem_cons.mp whole
    refine List.forall_mem_cons.mpr ⟨?_, ih others⟩
    simp [first, padding.single]

theorem remarks (respaced : Respaced lines spaced) :
    (spaced.map trim).filter (· ≠ []) = (lines.map trim).filter (· ≠ []) := by
  induction respaced with
  | done => rfl
  | blank padding rest ih => simpa [trim_blank padding.blank] using ih
  | @line line blanks lines spaced padding rest ih =>
    simp only [List.map_cons, trim_append_blanks padding.blank, List.filter_cons, ih]

theorem ink (respaced : Respaced lines spaced) : spaced.flatMap Text.ink = lines.flatMap Text.ink := by
  induction respaced with
  | done => rfl
  | blank padding rest ih => simpa [ink_blank padding.blank] using ih
  | line padding rest ih => simp [ink_blank padding.blank, ih]

/-- A search finds the same line, which may have got blanks at its end. -/
theorem lineWith? {marker : Text} (seen : isBlankLine marker = false)
    (ended : marker.getLast?.all fun c => !isBlank c) (respaced : Respaced lines spaced) :
    (Text.lineWith? marker lines = none ∧ Text.lineWith? marker spaced = none) ∨
      ∃ line blanks, isBlankLine blanks ∧ Text.lineWith? marker lines = some line ∧
        Text.lineWith? marker spaced = some (line ++ blanks) := by
  induction respaced with
  | done => exact .inl ⟨rfl, rfl⟩
  | @blank blanks lines spaced padding rest ih =>
    have absent : contains marker blanks = false := by
      rw [← Bool.not_eq_true]
      intro found
      have printed := isBlankLine_of_contains seen found
      rw [padding.blank] at printed
      cases printed
    have skipped : Text.lineWith? marker (blanks :: spaced) = Text.lineWith? marker spaced := by
      simp [Text.lineWith?, absent]
    rw [skipped]
    exact ih
  | @line line blanks lines spaced padding rest ih =>
    have same := contains_pad ended padding.blank line
    cases found : contains marker line with
    | true =>
      refine .inr ⟨line, blanks, padding.blank, ?_, ?_⟩
      · simp [Text.lineWith?, found]
      · simp [Text.lineWith?, same, found]
    | false =>
      have before : Text.lineWith? marker (line :: lines) = Text.lineWith? marker lines := by
        simp [Text.lineWith?, found]
      have behind : Text.lineWith? marker ((line ++ blanks) :: spaced) = Text.lineWith? marker spaced := by
        simp [Text.lineWith?, same, found]
      rw [before, behind]
      exact ih

end Respaced

namespace IsRespacing

variable {text spaced : Text}

theorem cut (respacing : IsRespacing text spaced) :
    ∃ first rest blanks others, lines text = first :: rest ∧ lines spaced = (first ++ blanks) :: others ∧
      blanks.IsPadding ∧ Respaced rest others := by
  obtain ⟨first, rest, blanks, others, written, padding, respaced, rfl⟩ := respacing
  have whole : ∀ line ∈ first :: rest, '\n' ∉ line := by
    intro line member
    rw [← written] at member
    exact not_mem_of_mem_split member
  have kept : ∀ line ∈ (first ++ blanks) :: others, '\n' ∉ line := (Respaced.line padding respaced).single whole
  exact ⟨first, rest, blanks, others, written, lines_unlines (by simp) kept, padding, respaced⟩

theorem lines (respacing : IsRespacing text spaced) : Respaced (Text.lines text) (Text.lines spaced) := by
  obtain ⟨first, rest, blanks, others, before, behind, padding, respaced⟩ := respacing.cut
  rw [before, behind]
  exact .line padding respaced

/-- Blanks do not change the format, since they neither begin the first line nor count as print. -/
theorem ofOutput (respacing : IsRespacing text spaced) : Format.ofOutput spaced = Format.ofOutput text := by
  apply Format.ofOutput_congr
  · obtain ⟨first, rest, blanks, others, before, behind, padding, _⟩ := respacing.cut
    have ended : ∀ c ∈ blanks.head?, c ∉ Format.warningStart := by
      intro c begins inside
      have blank : isBlank c = true := List.all_eq_true.mp padding.blank c (List.mem_of_mem_head? begins)
      rw [Format.warningStart_printed inside] at blank
      cases blank
    rw [← unlines_lines spaced, ← unlines_lines text, before, behind,
      startsWith_unlines Format.warningStart_single, startsWith_unlines Format.warningStart_single,
      startsWith_append ended]
  · rw [← unlines_lines spaced, ← unlines_lines text, ink_unlines, ink_unlines]
    exact respacing.lines.ink

end IsRespacing

end Text

namespace WarningList

private theorem extract_respaced (grammar : Line.Grammar) {output spaced : Text}
    (respacing : Text.IsRespacing output spaced) :
    (extract grammar spaced).map (List.map Record.content) =
      (extract grammar output).map (List.map Record.content) := by
  rw [extract_content, extract_content, ← fold_remarks, respacing.lines.remarks, fold_remarks]

end WarningList

namespace ErrorReport

variable {line blanks : Text}

private theorem fields_pad (blank : Text.isBlankLine blanks) (line : Text) :
    ∃ front last, Line.fields line = front ++ [last] ∧ Line.fields (line ++ blanks) = front ++ [last ++ blanks] := by
  apply Text.split_append_whole
  intro member
  have colon : Text.isBlank ':' = true := List.all_eq_true.mp blank ':' member
  cases colon

private theorem trim_fields_pad (blank : Text.isBlankLine blanks) (line : Text) :
    (Line.fields (line ++ blanks)).map Text.trim = (Line.fields line).map Text.trim := by
  obtain ⟨front, last, before, behind⟩ := fields_pad blank line
  simp [before, behind, Text.trim_append_blanks blank]

private theorem field_pad (blank : Text.isBlankLine blanks) (line : Text) (place : Nat) :
    Line.field (Line.fields (line ++ blanks)) place = Line.field (Line.fields line) place := by
  rw [Line.field_eq_getD, Line.field_eq_getD, trim_fields_pad blank]

private theorem fileField_eq_trim (fields : List Text) :
    fileField fields = ((fields.map Text.trim).findIdx? (Text.endsWith Path.sourceExtension)).getD 0 := by
  rw [List.findIdx?_map]
  rfl

private theorem fileField_pad (blank : Text.isBlankLine blanks) (line : Text) :
    fileField (Line.fields (line ++ blanks)) = fileField (Line.fields line) := by
  rw [fileField_eq_trim, fileField_eq_trim, trim_fields_pad blank]

/-- A field that names a source is not empty, so blanks behind it do not change how it begins. -/
private theorem head_file_pad (blank : Text.isBlankLine blanks) (line : Text)
    (later : 0 < fileField (Line.fields line)) :
    ((Line.fields (line ++ blanks)).getD (fileField (Line.fields line)) []).head? =
      ((Line.fields line).getD (fileField (Line.fields line)) []).head? := by
  obtain ⟨front, last, before, behind⟩ := fields_pad blank line
  have found : ((Line.fields line).findIdx? namesSource).getD 0 = fileField (Line.fields line) := rfl
  cases search : (Line.fields line).findIdx? namesSource with
  | none =>
    rw [search] at found
    simp only [Option.getD_none] at found
    omega
  | some place =>
    rw [search, Option.getD_some] at found
    rw [← found]
    obtain ⟨inside, named, _⟩ := List.findIdx?_eq_some_iff_getElem.mp search
    simp only [before, behind, List.getD_eq_getElem?_getD, List.length_append, List.length_singleton] at inside named ⊢
    by_cases earlier : place < front.length
    · simp [List.getElem?_append_left earlier]
    · obtain rfl : place = front.length := by omega
      rw [List.getElem_concat_length rfl] at named
      cases last with
      | nil => cases named
      | cons c last => simp

private theorem fileName_pad (blank : Text.isBlankLine blanks) (line : Text) :
    fileName (Line.fields (line ++ blanks)) (fileField (Line.fields line)) =
      fileName (Line.fields line) (fileField (Line.fields line)) := by
  simp only [fileName, field_pad blank]
  rcases Nat.eq_zero_or_pos (fileField (Line.fields line)) with first | later
  · simp [first]
  · rw [head_file_pad blank line later]

private theorem message_pad (blank : Text.isBlankLine blanks) (line : Text) (place : Nat) :
    Text.trim ((Line.fields (line ++ blanks)).drop place).flatten =
      Text.trim ((Line.fields line).drop place).flatten := by
  obtain ⟨front, last, before, behind⟩ := fields_pad blank line
  rw [before, behind]
  by_cases inside : place ≤ front.length
  · have same := Text.trim_append_blanks blank ((front.drop place).flatten ++ last)
    simpa [List.drop_append_of_le_length inside] using same
  · have beyond : (front ++ [last]).length ≤ place := by simp; omega
    have alike : (front ++ [last ++ blanks]).length ≤ place := by simp; omega
    rw [List.drop_of_length_le beyond, List.drop_of_length_le alike]

private theorem readLocation_result (raw line : Text) :
    (readLocation raw line).result =
      (Coordinate.read (Line.field (Line.fields line) (fileField (Line.fields line) + 1))).bind fun row =>
        (Coordinate.read (Line.field (Line.fields line) (fileField (Line.fields line) + 2))).bind fun column =>
          .ok ⟨fileName (Line.fields line) (fileField (Line.fields line)), row, column,
            Text.trim ((Line.fields line).drop (fileField (Line.fields line) + 3)).flatten, raw⟩ := by
  simp only [readLocation, Traced.andThen_result, Traced.ofExcept]
  congr 1
  funext row
  congr 1
  funext column
  split <;> rfl

private theorem readLocation_pad (blank : Text.isBlankLine blanks) (raw other line : Text) :
    (readLocation raw (line ++ blanks)).result.map Record.content =
      (readLocation other line).result.map Record.content := by
  rw [readLocation_result, readLocation_result, fileField_pad blank, fileName_pad blank, message_pad blank,
    field_pad blank, field_pad blank]
  cases Coordinate.read (Line.field (Line.fields line) (fileField (Line.fields line) + 1)) with
  | error fault => rfl
  | ok row => cases Coordinate.read (Line.field (Line.fields line) (fileField (Line.fields line) + 2)) <;> rfl

private theorem elaborate_content (lines : List Text) (record : Record) :
    (elaborate lines record).content = elaborate lines record.content := by
  unfold elaborate
  cases Text.lineWith? detailMarker lines <;> rfl

private theorem elaborate_respaced {lines spaced : List Text} (respaced : Text.Respaced lines spaced) :
    elaborate spaced = elaborate lines := by
  funext record
  unfold elaborate
  rcases @Text.Respaced.lineWith? _ _ detailMarker (by decide) (by decide) respaced with
    ⟨before, behind⟩ | ⟨line, blanks, blank, before, behind⟩
  · rw [before, behind]
  · simp only [before, behind, Text.trim_append_blanks blank]

private theorem readFrom_respaced {lines spaced : List Text} (respaced : Text.Respaced lines spaced)
    (raw other : Text) :
    (readFrom raw (Text.lineWith? locationMarker spaced)).result.map Record.content =
      (readFrom other (Text.lineWith? locationMarker lines)).result.map Record.content := by
  rcases @Text.Respaced.lineWith? _ _ locationMarker (by decide) (by decide) respaced with
    ⟨before, behind⟩ | ⟨line, blanks, blank, before, behind⟩
  · rw [before, behind]
    rfl
  · rw [before, behind]
    exact readLocation_pad blank raw other line

theorem extract_content (output : Text) :
    (extract output).result.map Record.content =
      ((readFrom (Text.withoutBlankLines output) (Text.lineWith? locationMarker (Text.lines output))).result.map
        Record.content).map (elaborate (Text.lines output)) := by
  rw [extract_eq_readFrom, Traced.map_result]
  cases (readFrom (Text.withoutBlankLines output) (Text.lineWith? locationMarker (Text.lines output))).result with
  | error fault => rfl
  | ok record => exact congrArg Except.ok (elaborate_content _ record)

private theorem extract_respaced {output spaced : Text} (respacing : Text.IsRespacing output spaced) :
    (extract spaced).result.map Record.content = (extract output).result.map Record.content := by
  have located := readFrom_respaced respacing.lines (Text.withoutBlankLines spaced) (Text.withoutBlankLines output)
  rw [extract_content, extract_content, located, elaborate_respaced respacing.lines]

end ErrorReport

namespace Extraction

/-- What an output was read as, without the output itself. -/
def contents (output : Text) : Except Fault (Format × List Record) :=
  (records output).result.map fun (format, found) => (format, found.map Record.content)

private theorem contents_error {output : Text} (format : Format.ofOutput output = .error) :
    contents output =
      ((ErrorReport.extract output).result.map Record.content).map fun record => (.error, [record]) := by
  simp only [contents, records, format, Traced.map_result]
  cases (ErrorReport.extract output).result <;> rfl

private theorem contents_warning {output : Text} (format : Format.ofOutput output = .warning) :
    contents output = ((WarningList.extract .standard output).map (List.map Record.content)).result.map fun found =>
      (.warning, found) := by
  simp only [contents, records, format, Traced.map_result]
  cases (WarningList.extract .standard output).result <;> rfl

/-- Blanks at the ends of lines and blank lines behind the first line change neither the format nor the records, and
not even the fault where the reading fails. -/
theorem contents_respaced {output spaced : Text} (respacing : Text.IsRespacing output spaced) :
    contents spaced = contents output := by
  have same := respacing.ofOutput
  cases format : Format.ofOutput output with
  | clean => simp only [contents, records, same, format]
  | error =>
    rw [contents_error format, contents_error (same.trans format), ErrorReport.extract_respaced respacing]
  | warning =>
    rw [contents_warning format, contents_warning (same.trans format), WarningList.extract_respaced _ respacing]

/-- An error on a drive with its elaboration, once with plain line ends and once with carriage returns and blank
lines. -/
theorem contents_respaced_returns :
    let output : Text := "C:\\a.v:3:1: bad:\n * more".toList
    let spaced : Text := "C:\\a.v:3:1: bad:\r\n\t \n\n * more\r\n\r".toList
    Text.IsRespacing output spaced ∧ contents spaced = contents output ∧
      contents output =
        .ok (.error, [⟨"C:\\a.v".toList, .known 3, .known 1, "bad:\n* more".toList, []⟩]) := by
  intro output spaced
  have respaced : Text.Respaced [" * more".toList] ["\t ".toList, [], " * more\r".toList, ['\r']] :=
    .blank (by decide) (.blank (by decide) (@Text.Respaced.line " * more".toList ['\r'] _ _ (by decide)
      (.blank (by decide) .done)))
  have respacing : Text.IsRespacing output spaced :=
    ⟨"C:\\a.v:3:1: bad:".toList, [" * more".toList], ['\r'], _, by decide, by decide, respaced, by decide⟩
  exact ⟨respacing, contents_respaced respacing, by decide +kernel⟩

end Extraction

end VDiagnostics
