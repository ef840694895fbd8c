import VDiagnostics.Output.Extraction
import VDiagnostics.Proofs.Numerals
import VDiagnostics.Proofs.WarningLines

/-! Warnings as the compiler writes them are read back as they were. Between a warning's headline and
the next one there may be any blank lines, and elaborations may be indented in any way. -/

namespace VDiagnostics

/-- A part of a line that fits between two colons. -/
structure Text.IsField (text : Text) : Prop where
  trimmed : Text.trim text = text
  colonless : ':' ∉ text
  single : '\n' ∉ text

instance (text : Text) : Decidable text.IsField :=
  decidable_of_iff (Text.trim text = text ∧ ':' ∉ text ∧ '\n' ∉ text)
    ⟨fun ⟨trimmed, colonless, single⟩ => ⟨trimmed, colonless, single⟩,
      fun field => ⟨field.trimmed, field.colonless, field.single⟩⟩

/-- A line that explains the warning before it and gives no place of its own. -/
structure Text.IsElaboration (line : Text) : Prop where
  trimmed : Text.trim line = line
  single : '\n' ∉ line
  starred : line.head? = some '*'
  colons : line.count ':' ≤ 3

instance (line : Text) : Decidable line.IsElaboration :=
  decidable_of_iff (Text.trim line = line ∧ '\n' ∉ line ∧ line.head? = some '*' ∧ line.count ':' ≤ 3)
    ⟨fun ⟨trimmed, single, starred, colons⟩ => ⟨trimmed, single, starred, colons⟩,
      fun line => ⟨line.trimmed, line.single, line.starred, line.colons⟩⟩

theorem Text.IsElaboration.ne_nil {line : Text} (elaboration : line.IsElaboration) : line ≠ [] := by
  intro empty
  simpa [empty] using elaboration.starred

structure Warning where
  file : Text
  line : Int
  column : Int
  message : Text
  elaborations : List Text

namespace Warning

structure Proper (warning : Warning) : Prop where
  file : warning.file.IsField
  line : Coordinate.IsShort warning.line
  column : Coordinate.IsShort warning.column
  message : warning.message.IsField
  elaborations : ∀ line ∈ warning.elaborations, line.IsElaboration

instance (warning : Warning) : Decidable warning.Proper :=
  decidable_of_iff (warning.file.IsField ∧ Coordinate.IsShort warning.line ∧
      Coordinate.IsShort warning.column ∧ warning.message.IsField ∧
      ∀ line ∈ warning.elaborations, line.IsElaboration)
    ⟨fun ⟨file, line, column, message, elaborations⟩ => ⟨file, line, column, message, elaborations⟩,
      fun proper => ⟨proper.file, proper.line, proper.column, proper.message, proper.elaborations⟩⟩

def headline (warning : Warning) : Text :=
  ['w', 'a', 'r', 'n', 'i', 'n', 'g', ':', ' '] ++ warning.file ++ [':'] ++ Text.ofInt warning.line ++ [':'] ++
    Text.ofInt warning.column ++ [':', ' '] ++ warning.message

def record (raw : Text) (warning : Warning) : Record where
  file := warning.file
  line := .known warning.line
  column := .known warning.column
  message := warning.message ++ warning.elaborations.flatMap (['\n', ' '] ++ ·)
  raw := raw

/-- The lines that elaborations may stand on: each with blanks around it, and blank lines anywhere. -/
inductive Elaborated : List Text → List Text → Prop where
  | done : Elaborated [] []
  | blank {blanks elaborations lines} (padding : blanks.IsPadding) (rest : Elaborated elaborations lines) :
      Elaborated elaborations (blanks :: lines)
  | elaboration {front back elaboration elaborations lines} (before : front.IsPadding) (behind : back.IsPadding)
      (rest : Elaborated elaborations lines) :
      Elaborated (elaboration :: elaborations) ((front ++ elaboration ++ back) :: lines)

/-- The lines that warnings may be written on, one warning after the other. -/
inductive Written : List Warning → List Text → Prop where
  | done : Written [] []
  | warning {warning warnings tail lines} (elaborated : Elaborated warning.elaborations tail)
      (rest : Written warnings lines) :
      Written (warning :: warnings) (warning.headline :: tail ++ lines)

def remarks (warnings : List Warning) : List Text :=
  warnings.flatMap fun warning => Text.trim warning.headline :: warning.elaborations

private theorem fields_headline {warning : Warning} (proper : warning.Proper) :
    Line.fields warning.headline =
      [Format.warningStart, ' ' :: warning.file, Text.ofInt warning.line, Text.ofInt warning.column,
        ' ' :: warning.message] := by
  have spelled : warning.headline =
      Format.warningStart ++ ':' :: ((' ' :: warning.file) ++ ':' :: (Text.ofInt warning.line ++ ':' ::
        (Text.ofInt warning.column ++ ':' :: ' ' :: warning.message))) := by
    simp [headline, Format.warningStart]
  have number (n : Int) : ':' ∉ Text.ofInt n := Text.not_mem_ofInt (by decide) (by decide) n
  rw [spelled, Line.fields, Text.split_append_cons (by decide), Text.split_append_cons,
    Text.split_append_cons (number _), Text.split_append_cons (number _), Text.split_whole]
  · simpa using proper.message.colonless
  · simpa using proper.file.colonless

private theorem headline_starts (warning : Warning) :
    ∃ rest, warning.headline = Format.warningStart ++ rest := by
  exact ⟨_, by simp only [headline, List.append_assoc]; rfl⟩

theorem newline_not_mem_headline {warning : Warning} (proper : warning.Proper) : '\n' ∉ warning.headline := by
  have number (n : Int) : '\n' ∉ Text.ofInt n := Text.not_mem_ofInt (by decide) (by decide) n
  simp [headline, number, proper.file.single, proper.message.single]

theorem trim_headline_ne_nil {warning : Warning} : Text.trim warning.headline ≠ [] := by
  intro empty
  have blank := List.all_eq_true.mp (Text.trim_eq_nil_iff.mp empty) 'w' (by simp [headline])
  simp [Text.isBlank] at blank

theorem takeLine_headline {warning : Warning} (proper : warning.Proper) (raw : Text)
    (pending : List WarningList.Pending) :
    WarningList.takeLine .standard raw pending warning.headline =
      .answer (⟨{ warning.record raw with message := warning.message }, []⟩ :: pending) := by
  have read (place : Nat) (value : Text) (found : (Line.fields warning.headline).getD place [] = value) :
      Line.field (Line.fields (Text.trim warning.headline)) place = Text.trim value := by
    rw [Line.field_trim, Line.field, found]
  have file := read 1 (' ' :: warning.file) (by simp [fields_headline proper])
  have row := read 2 (Text.ofInt warning.line) (by simp [fields_headline proper])
  have column := read 3 (Text.ofInt warning.column) (by simp [fields_headline proper])
  have message := read 4 (' ' :: warning.message) (by simp [fields_headline proper])
  rw [Text.trim_cons_blank rfl, proper.file.trimmed] at file
  rw [Text.trim_cons_blank rfl, proper.message.trimmed] at message
  rw [Text.trim_ofInt] at row column
  have remark : (Text.trim warning.headline).IsRemark := ⟨Text.trim_trim _, trim_headline_ne_nil⟩
  have enough : Line.Grammar.standard.minFields ≤ (Line.fields (Text.trim warning.headline)).length := by
    rw [Line.length_fields_trim, fields_headline proper]
    exact Int.le_refl _
  have starts : ¬ Line.Grammar.standard.Continues (Text.trim warning.headline) :=
    fun continues => Int.not_lt.mpr enough continues.1
  rw [← WarningList.takeLine_trim, WarningList.takeLine_started remark starts,
    WarningList.readRecord_located (by rw [row, Coordinate.read_ofInt proper.line])
      (by rw [column, Coordinate.read_ofInt proper.column]) enough, file, message]
  rfl

private theorem takeLine_elaboration {line : Text} (elaboration : line.IsElaboration) (raw : Text)
    (newest : WarningList.Pending) (older : List WarningList.Pending) :
    WarningList.takeLine .standard raw (newest :: older) line =
      .answer ({ newest with continuations := newest.continuations ++ [line] } :: older) := by
  have few : ((Line.fields line).length : Int) < Line.Grammar.standard.minFields := by
    have colons := elaboration.colons
    rw [Line.fields, Text.length_split]
    simp only [Line.Grammar.standard]
    omega
  have marked : Line.Grammar.standard.marker <+: line := by
    obtain ⟨rest, rfl⟩ := List.head?_eq_some_iff.mp elaboration.starred
    exact List.prefix_append ['*'] rest
  exact WarningList.takeLine_continued ⟨elaboration.trimmed, elaboration.ne_nil⟩ ⟨few, marked⟩ newest older

private theorem fold_elaborations {elaborations : List Text} (proper : ∀ line ∈ elaborations, line.IsElaboration)
    (raw : Text) (newest : WarningList.Pending) (older : List WarningList.Pending) :
    Traced.fold (WarningList.takeLine .standard raw) (newest :: older) elaborations =
      .answer ({ newest with continuations := newest.continuations ++ elaborations } :: older) := by
  induction elaborations generalizing newest with
  | nil => simp [Traced.fold]
  | cons line rest ih =>
    obtain ⟨first, others⟩ := List.forall_mem_cons.mp proper
    rw [Traced.fold, takeLine_elaboration first, Traced.answer_andThen, ih others]
    simp

def taken (raw : Text) (warning : Warning) : WarningList.Pending :=
  ⟨{ warning.record raw with message := warning.message }, warning.elaborations⟩

private theorem finish_taken (raw : Text) (warning : Warning) : (warning.taken raw).finish = warning.record raw := rfl

theorem fold_remarks {warnings : List Warning} (proper : ∀ warning ∈ warnings, warning.Proper) (raw : Text)
    (pending : List WarningList.Pending) :
    Traced.fold (WarningList.takeLine .standard raw) pending (remarks warnings) =
      .answer ((warnings.map (taken raw)).reverse ++ pending) := by
  induction warnings generalizing pending with
  | nil => rfl
  | cons warning rest ih =>
    obtain ⟨first, others⟩ := List.forall_mem_cons.mp proper
    have start := takeLine_headline first raw pending
    rw [remarks, List.flatMap_cons, List.cons_append, Traced.fold, WarningList.takeLine_trim, start,
      Traced.answer_andThen, Traced.fold_append, fold_elaborations first.elaborations, Traced.answer_andThen]
    rw [← remarks, ih others]
    simp [taken]

theorem Elaborated.remarks {elaborations lines : List Text} (elaborated : Elaborated elaborations lines)
    (proper : ∀ line ∈ elaborations, line.IsElaboration) :
    (lines.map Text.trim).filter (· ≠ []) = elaborations := by
  induction elaborated with
  | done => rfl
  | blank padding rest ih => simpa [Text.trim_blank padding.blank] using ih proper
  | elaboration before behind rest ih =>
    obtain ⟨first, others⟩ := List.forall_mem_cons.mp proper
    rw [List.map_cons, Text.trim_pad before.blank behind.blank, first.trimmed,
      List.filter_cons_of_pos (by simpa using first.ne_nil), ih others]

theorem Written.remarks {warnings : List Warning} {lines : List Text} (written : Written warnings lines)
    (proper : ∀ warning ∈ warnings, warning.Proper) :
    (lines.map Text.trim).filter (· ≠ []) = Warning.remarks warnings := by
  induction written with
  | done => rfl
  | warning elaborated rest ih =>
    obtain ⟨first, others⟩ := List.forall_mem_cons.mp proper
    rw [List.cons_append, List.map_cons, List.filter_cons_of_pos (by simpa using trim_headline_ne_nil),
      List.map_append, List.filter_append, elaborated.remarks first.elaborations, ih others]
    rfl

theorem Elaborated.single {elaborations lines : List Text} (elaborated : Elaborated elaborations lines)
    (proper : ∀ line ∈ elaborations, line.IsElaboration) : ∀ line ∈ lines, '\n' ∉ line := by
  induction elaborated with
  | done => simp
  | blank padding rest ih =>
    exact List.forall_mem_cons.mpr ⟨padding.single, ih proper⟩
  | elaboration before behind rest ih =>
    obtain ⟨first, others⟩ := List.forall_mem_cons.mp proper
    refine List.forall_mem_cons.mpr ⟨?_, ih others⟩
    simp [before.single, first.single, behind.single]

theorem Written.single {warnings : List Warning} {lines : List Text} (written : Written warnings lines)
    (proper : ∀ warning ∈ warnings, warning.Proper) : ∀ line ∈ lines, '\n' ∉ line := by
  induction written with
  | done => simp
  | warning elaborated rest ih =>
    obtain ⟨first, others⟩ := List.forall_mem_cons.mp proper
    rw [List.cons_append]
    refine List.forall_mem_cons.mpr ⟨newline_not_mem_headline first, ?_⟩
    exact List.forall_mem_append.mpr ⟨elaborated.single first.elaborations, ih others⟩

theorem ofOutput_warning (rest : Text) : Format.ofOutput (Format.warningStart ++ rest) = .warning := by
  have long : ¬ (Text.trim (Format.warningStart ++ rest)).length ≤ 1 := by
    have start : Text.trim (Format.warningStart ++ rest) = Text.trimEnd (Format.warningStart ++ rest) :=
      Text.trim_cons rfl _
    by_cases blank : Text.isBlankLine rest
    · rw [start, Text.trimEnd_pad blank]
      decide
    · rw [start, Text.trimEnd_append (by simpa using blank)]
      simp [Format.warningStart]
  have starts : Text.startsWith Format.warningStart (Format.warningStart ++ rest) := by
    simp [Text.startsWith]
  simp [Format.ofOutput, long, starts]

/-- Warnings that were written on lines, with blanks and blank lines where they may be, are read back
one by one, and there is nothing to note. -/
theorem records_written {warnings : List Warning} {lines : List Text} (nonempty : warnings ≠ [])
    (proper : ∀ warning ∈ warnings, warning.Proper) (written : Written warnings lines) :
    Extraction.records (Text.unlines lines) =
      .answer (.warning, warnings.map (record (Text.unlines lines))) := by
  obtain ⟨present, format⟩ : lines ≠ [] ∧ Format.ofOutput (Text.unlines lines) = .warning := by
    cases written with
    | done => exact absurd rfl nonempty
    | @warning warning _ tail others elaborated rest =>
      obtain ⟨ending, start⟩ := headline_starts warning
      obtain ⟨following, joined⟩ := Text.unlines_cons warning.headline (tail ++ others)
      refine ⟨by simp, ?_⟩
      rw [List.cons_append, joined, start, List.append_assoc]
      exact ofOutput_warning _
  have said : Text.remarks (Text.unlines lines) = remarks warnings := by
    rw [Text.remarks, Text.lines_unlines present (written.single proper), written.remarks proper]
  rw [Extraction.records, format]
  simp only [WarningList.extract_eq_fold_remarks, said, fold_remarks proper, Traced.map_answer]
  simp [Function.comp_def, finish_taken]

/-- Two warnings with blank lines after either, one with an indented elaboration and one without a
message. -/
theorem records_written_spaced :
    let first : Warning := ⟨"a.v".toList, 10, -4, "unused `x`".toList, ["* remove it: now".toList]⟩
    let second : Warning := ⟨"b.v".toList, 2, 1, [], []⟩
    let lines : List Text := [first.headline, [], "\t * remove it: now ".toList, [' '], second.headline, []]
    Text.unlines lines =
        "warning: a.v:10:-4: unused `x`\n\n\t * remove it: now \n \nwarning: b.v:2:1: \n".toList ∧
      Extraction.records (Text.unlines lines) =
        .answer (.warning,
          [⟨"a.v".toList, .known 10, .known (-4), "unused `x`\n * remove it: now".toList, Text.unlines lines⟩,
            ⟨"b.v".toList, .known 2, .known 1, [], Text.unlines lines⟩]) := by
  intro first second lines
  have indented : Elaborated first.elaborations [[], "\t * remove it: now ".toList, [' ']] :=
    .blank (by decide) (@Elaborated.elaboration ['\t', ' '] [' '] _ [] _ (by decide) (by decide)
      (.blank (by decide) .done))
  have spaced : Elaborated second.elaborations [[]] := .blank (by decide) .done
  have written : Written [first, second] lines := .warning indented (.warning spaced .done)
  exact ⟨by decide, records_written (by simp) (by decide) written⟩

end Warning

end VDiagnostics
