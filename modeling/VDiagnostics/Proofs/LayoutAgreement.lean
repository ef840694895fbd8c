import VDiagnostics.Proofs.ErrorRoundTrip
import VDiagnostics.Proofs.WarningRoundTrip

/-! One place in both layouts. An error's file is searched for among the fields of its line and a warning's is
counted off, so the two agree as long as the file itself is a single field. A drive makes two fields of it, and
only the search puts them together again. -/

namespace VDiagnostics

/-- A source file as the error layout takes it: without a colon, or with the one behind a drive. -/
structure Text.IsSourceFile (file : Text) : Prop where
  trimmed : trim file = file
  single : '\n' ∉ file
  source : endsWith Path.sourceExtension file
  driven : ':' ∉ file ∨ ∃ letter path, file = letter :: ':' :: path ∧ isLetter letter ∧ ':' ∉ path ∧
    ErrorReport.isSlashed path

/-- A slash of either kind starts no number. -/
theorem Coordinate.read_slashed {path : Text} (slashed : ErrorReport.isSlashed path) :
    read (Text.trim path) = .ok unknown := by
  simp only [ErrorReport.isSlashed, Bool.or_eq_true, beq_iff_eq] at slashed
  rcases slashed with backward | forward
  · obtain ⟨rest, rfl⟩ := List.head?_eq_some_iff.mp backward
    rw [Text.trim_printed (by decide)]
    rfl
  · obtain ⟨rest, rfl⟩ := List.head?_eq_some_iff.mp forward
    rw [Text.trim_printed (by decide)]
    rfl

/-- An error that is printed by itself is read back as it was printed. -/
theorem Location.extract_alone {location : Location} (proper : location.Proper) :
    ErrorReport.extract location.text =
      .answer ⟨location.file, .known location.line, .known location.column, location.explained [],
        Text.withoutBlankLines location.text⟩ := by
  have located := @lineWith?_location location [] [] [] proper (by simp)
  have plain := @lineWith?_detail location [] [] [] proper (by simp) (by simp)
  have single := @newline_not_mem_report location [] [] [] proper (by simp)
  have read := ErrorReport.extract_unlines single located (readLocation_text proper _)
  rw [ErrorReport.elaborate, plain] at read
  simpa [Text.unlines] using read

theorem WarningList.extract_line {line : Text} (single : '\n' ∉ line) (grammar : Line.Grammar) :
    extract grammar line = (takeLine grammar line [] line).map fun pending => pending.reverse.map Pending.finish := by
  rw [extract_eq_fold_lines, Text.lines, Text.split_whole single]
  exact congrArg (Traced.map _) (Traced.andThen_answer _)

namespace Warning

/-- The line of an error at the place of a warning. -/
def errorLine (warning : Warning) : Text :=
  ['e', 'r', 'r', 'o', 'r', ':', ' '] ++ warning.file ++ [':'] ++ Text.ofInt warning.line ++ [':'] ++
    Text.ofInt warning.column ++ [':', ' '] ++ warning.message

/-- A source file and a message that fit on the lines of both layouts, with nothing that elaborates them. -/
structure IsShared (warning : Warning) : Prop where
  file : warning.file.IsSourceFile
  line : Coordinate.IsShort warning.line
  column : Coordinate.IsShort warning.column
  message : warning.message.IsField
  alone : warning.elaborations = []
  plain : Text.contains ErrorReport.detailMarker warning.errorLine = false

variable {warning : Warning}

def location (warning : Warning) (drive : Option Char) (path : Text) : Location :=
  ⟨some ['e', 'r', 'r', 'o', 'r'], [' '], drive, path, warning.line, warning.column, ' ' :: warning.message⟩

private theorem text_location {drive : Option Char} {path : Text}
    (named : (warning.location drive path).file = warning.file) :
    (warning.location drive path).text = warning.errorLine := by
  simp [Location.text, named]
  simp [errorLine, location]

private theorem proper_location (shared : warning.IsShared) {drive : Option Char} {path : Text}
    (named : (warning.location drive path).file = warning.file) (colonless : ':' ∉ path)
    (driven : ∀ letter ∈ drive, Text.isLetter letter ∧ ErrorReport.isSlashed path) :
    (warning.location drive path).Proper where
  label := by
    rintro label ⟨⟩
    exact ⟨by decide, by decide, by decide, fun _ _ => by decide⟩
  gap := by
    simp only [location]
    decide
  trimmed := by rw [named, shared.file.trimmed]
  source := by rw [named, shared.file.source]
  colonless := colonless
  single := by rw [named]; exact shared.file.single
  drive := driven
  line := shared.line
  column := shared.column
  message := by simpa [location] using shared.message.single
  plain := by rw [text_location named, shared.plain]

/-- A source file is one of a drive, or of none. -/
private theorem exists_location (shared : warning.IsShared) :
    ∃ drive path, (warning.location drive path).Proper ∧ (warning.location drive path).file = warning.file := by
  rcases shared.file.driven with colonless | ⟨letter, path, driven, known, colonless, slashed⟩
  · exact ⟨none, warning.file, proper_location shared rfl colonless (by simp), rfl⟩
  · have named : (warning.location (some letter) path).file = warning.file := driven.symm
    refine ⟨some letter, path, proper_location shared named colonless ?_, named⟩
    rintro other ⟨⟩
    exact ⟨known, slashed⟩

/-- The search puts the file together, whether it has a drive or not. -/
theorem extract_errorLine (shared : warning.IsShared) :
    ∃ raw, ErrorReport.extract warning.errorLine = .answer (warning.record raw) := by
  obtain ⟨drive, path, proper, named⟩ := exists_location shared
  have said : (warning.location drive path).explained [] = warning.message := by
    have colonless : (' ' :: warning.message).filter (· ≠ ':') = ' ' :: warning.message := by
      apply List.filter_eq_self.mpr
      intro c member
      rcases List.mem_cons.mp member with rfl | inside
      · decide
      · have other : c ≠ ':' := fun same => shared.message.colonless (same ▸ inside)
        simpa using other
    rw [Location.explained, location, colonless, Text.trim_cons_blank rfl, shared.message.trimmed]
    exact List.append_nil _
  have read := Location.extract_alone proper
  rw [text_location named, named, said] at read
  refine ⟨Text.withoutBlankLines warning.errorLine, read.trans ?_⟩
  simp [record, shared.alone, location]

private theorem extract_headline_colonless (shared : warning.IsShared) (colonless : ':' ∉ warning.file) :
    WarningList.extract .standard warning.headline = .answer [warning.record warning.headline] := by
  have proper : warning.Proper :=
    ⟨⟨shared.file.trimmed, colonless, shared.file.single⟩, shared.line, shared.column, shared.message,
      by simp [shared.alone]⟩
  rw [WarningList.extract_line (newline_not_mem_headline proper), takeLine_headline proper]
  simp [WarningList.Pending.finish, record, shared.alone]

/-- Where the colon behind a drive is taken for the end of the file, all that follows is one field late. -/
def misread (warning : Warning) (letter : Char) : Record :=
  ⟨[letter], .unknown, .known warning.line, Text.ofInt warning.column, warning.headline⟩

private theorem fields_headline_driven (shared : warning.IsShared) {letter : Char} {path : Text}
    (driven : warning.file = letter :: ':' :: path) (known : Text.isLetter letter) (colonless : ':' ∉ path) :
    Line.fields warning.headline =
      [Format.warningStart, [' ', letter], path, Text.ofInt warning.line, Text.ofInt warning.column,
        ' ' :: warning.message] := by
  have number (n : Int) : ':' ∉ Text.ofInt n := Text.not_mem_ofInt (by decide) (by decide) n
  have other : letter ≠ ':' := by
    rintro rfl
    exact absurd known (by decide +kernel)
  have spelled : warning.headline =
      Format.warningStart ++ ':' :: ([' ', letter] ++ ':' :: (path ++ ':' :: (Text.ofInt warning.line ++ ':' ::
        (Text.ofInt warning.column ++ ':' :: ' ' :: warning.message)))) := by
    simp [headline, driven, Format.warningStart]
  rw [spelled, Line.fields, Text.split_append_cons (by decide), Text.split_append_cons (by simp [other.symm]),
    Text.split_append_cons colonless, Text.split_append_cons (number _), Text.split_append_cons (number _),
    Text.split_whole (by simpa using shared.message.colonless)]

private theorem extract_headline_driven (shared : warning.IsShared) {letter : Char} {path : Text}
    (driven : warning.file = letter :: ':' :: path) (known : Text.isLetter letter) (colonless : ':' ∉ path)
    (slashed : ErrorReport.isSlashed path) :
    WarningList.extract .standard warning.headline =
      .note (.malformed (Text.trim warning.headline) Anomaly.notNumeric) [warning.misread letter] := by
  have fields := fields_headline_driven shared driven known colonless
  have read (place : Nat) (value : Text) (found : (Line.fields warning.headline).getD place [] = value) :
      Line.field (Line.fields (Text.trim warning.headline)) place = Text.trim value := by
    rw [Line.field_trim, Line.field, found]
  have printed : Text.isBlank letter = false := by
    have trimmed := shared.file.trimmed
    rw [driven] at trimmed
    exact Text.isBlank_of_trimmed trimmed
  have file := read 1 [' ', letter] (by simp [fields])
  have row := read 2 path (by simp [fields])
  have column := read 3 (Text.ofInt warning.line) (by simp [fields])
  have message := read 4 (Text.ofInt warning.column) (by simp [fields])
  rw [Text.trim_cons_blank rfl, Text.trim_printed printed] at file
  rw [Text.trim_ofInt] at column message
  have unread : Coordinate.read (Line.field (Line.fields (Text.trim warning.headline)) 2) = .ok .unknown := by
    rw [row, Coordinate.read_slashed slashed]
  have late :
      Coordinate.read (Line.field (Line.fields (Text.trim warning.headline)) 3) = .ok (.known warning.line) := by
    rw [column, Coordinate.read_ofInt shared.line]
  have remark : (Text.trim warning.headline).IsRemark := ⟨Text.trim_trim _, trim_headline_ne_nil⟩
  have enough : ¬ ((Line.fields (Text.trim warning.headline)).length : Int) < Line.Grammar.standard.minFields := by
    simp [Line.length_fields_trim, fields, Line.Grammar.standard]
  have single : '\n' ∉ warning.headline := by
    have number (n : Int) : '\n' ∉ Text.ofInt n := Text.not_mem_ofInt (by decide) (by decide) n
    simp [headline, number, shared.file.single, shared.message.single]
  rw [WarningList.extract_line single, ← WarningList.takeLine_trim,
    WarningList.takeLine_started remark fun continues => enough continues.1,
    WarningList.readRecord_eq unread late, file, message]
  simp [WarningList.defect?, enough, Record.isLocated, Coordinate.isKnown, Traced.map, Traced.note, Except.map, misread,
    WarningList.Pending.finish, Text.trimEnd]

/-- Error and warning agree on a place exactly where the file has no drive. The error is read as it was printed in
either case; of the warning's file with a drive the drive alone is left, and the loss is noted. -/
theorem layouts_agree_iff (shared : warning.IsShared) :
    ∃ error warned noted, ErrorReport.extract warning.errorLine = .answer error ∧
      WarningList.extract .standard warning.headline = ⟨noted, .ok [warned]⟩ ∧
      error.content = warning.record [] ∧
      (warned.content = error.content ↔ ':' ∉ warning.file) ∧
      (noted = [] ↔ ':' ∉ warning.file) ∧
      ∀ letter path, warning.file = letter :: ':' :: path →
        warned.content = ⟨[letter], .unknown, .known warning.line, Text.ofInt warning.column, []⟩ := by
  obtain ⟨raw, read⟩ := extract_errorLine shared
  rcases shared.file.driven with colonless | ⟨letter, path, driven, known, colonless, slashed⟩
  · refine ⟨_, _, _, read, extract_headline_colonless shared colonless, rfl, iff_of_true rfl colonless,
      iff_of_true rfl colonless, fun letter path driven => ?_⟩
    simp [driven] at colonless
  · have colon : ':' ∈ warning.file := by simp [driven]
    refine ⟨_, _, _, read, extract_headline_driven shared driven known colonless slashed, rfl,
      iff_of_false (fun same => ?_) (not_not_intro colon), iff_of_false (by simp) (not_not_intro colon),
      fun other rest same => ?_⟩
    · have line := congrArg Record.line same
      cases line
    · obtain ⟨rfl, _⟩ := List.cons.inj (driven.symm.trans same)
      rfl

/-- The same words about a file of a drive and about one without. -/
theorem layouts_agree_iff_driven :
    let near : Warning := ⟨"w/a.v".toList, 3, -1, "x y".toList, []⟩
    let far : Warning := ⟨"é:/w/a.v".toList, 3, -1, "x y".toList, []⟩
    (near.errorLine = "error: w/a.v:3:-1: x y".toList ∧ near.headline = "warning: w/a.v:3:-1: x y".toList ∧
      ∃ error warned, ErrorReport.extract near.errorLine = .answer error ∧
        WarningList.extract .standard near.headline = .answer [warned] ∧ warned.content = error.content) ∧
      far.errorLine = "error: é:/w/a.v:3:-1: x y".toList ∧ far.headline = "warning: é:/w/a.v:3:-1: x y".toList ∧
      ∃ error warned noted, ErrorReport.extract far.errorLine = .answer error ∧
        WarningList.extract .standard far.headline = ⟨noted, .ok [warned]⟩ ∧ noted ≠ [] ∧
        error.content = ⟨"é:/w/a.v".toList, .known 3, .known (-1), "x y".toList, []⟩ ∧
        warned.content = ⟨['é'], .unknown, .known 3, "-1".toList, []⟩ := by
  intro near far
  have nearShared : near.IsShared :=
    ⟨⟨by decide, by decide, by decide, .inl (by decide)⟩, by decide, by decide, by decide, rfl, by decide⟩
  have spelled : far.file = 'é' :: ':' :: "/w/a.v".toList := by decide
  have farFile : far.file.IsSourceFile :=
    ⟨by decide, by decide, by decide, .inr ⟨_, _, spelled, by decide +kernel, by decide, by decide⟩⟩
  have farShared : far.IsShared := ⟨farFile, by decide, by decide, by decide, rfl, by decide⟩
  refine ⟨⟨by decide, by decide, ?_⟩, by decide, by decide, ?_⟩
  · obtain ⟨error, warned, noted, errorRead, warningRead, _, same, silent, _⟩ := layouts_agree_iff nearShared
    obtain rfl := silent.mpr (by decide)
    exact ⟨error, warned, errorRead, warningRead, same.mpr (by decide)⟩
  · obtain ⟨error, warned, noted, errorRead, warningRead, whole, _, silent, late⟩ := layouts_agree_iff farShared
    have printed : Text.ofInt far.column = "-1".toList := by decide
    have said := late _ _ spelled
    rw [printed] at said
    exact ⟨error, warned, noted, errorRead, warningRead, fun none => silent.mp none (by decide), whole, said⟩

/-- A warning about a file of a drive names the drive for the file, which an error about it does not. -/
theorem drive_mistaken_for_file :
    Text.IsSourceFile "C:\\a.v".toList ∧ ∃ error warned,
      (ErrorReport.extract "error: C:\\a.v:3:1: x".toList).result = .ok error ∧
      (WarningList.extract .standard "warning: C:\\a.v:3:1: x".toList).result = .ok [warned] ∧
      error.file = "C:\\a.v".toList ∧ error.line = .known 3 ∧ error.column = .known 1 ∧ error.message = ['x'] ∧
      warned.file = ['C'] ∧ warned.line = .unknown ∧ warned.column = .known 3 ∧ warned.message = ['1'] := by
  have file : Text.IsSourceFile "C:\\a.v".toList :=
    ⟨by decide, by decide, by decide, .inr ⟨'C', "\\a.v".toList, rfl, by decide +kernel, by decide, by decide⟩⟩
  have error : (ErrorReport.extract "error: C:\\a.v:3:1: x".toList).result =
      .ok ⟨"C:\\a.v".toList, .known 3, .known 1, ['x'], "error: C:\\a.v:3:1: x".toList⟩ := by decide +kernel
  have warned : (WarningList.extract .standard "warning: C:\\a.v:3:1: x".toList).result =
      .ok [⟨['C'], .unknown, .known 3, ['1'], "warning: C:\\a.v:3:1: x".toList⟩] := by decide +kernel
  exact ⟨file, _, _, error, warned, rfl, rfl, rfl, rfl, rfl, rfl, rfl, rfl⟩

end Warning

end VDiagnostics
