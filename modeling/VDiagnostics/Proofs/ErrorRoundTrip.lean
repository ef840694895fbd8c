import VDiagnostics.Proofs.ErrorLines

/-! An error is read back from the line that gives its location, through whatever is printed around it.
A label before the file is skipped, and a drive that the colon cut off is put back. -/

namespace VDiagnostics

/-- The place of an error as it is printed. -/
structure Location where
  label : Option Text
  gap : Text
  drive : Option Char
  path : Text
  line : Int
  column : Int
  message : Text

namespace Location

def file (location : Location) : Text :=
  match location.drive with
  | none => location.path
  | some letter => letter :: ':' :: location.path

def text (location : Location) : Text :=
  location.label.elim [] (· ++ [':']) ++ location.gap ++ location.file ++ [':'] ++ Text.ofInt location.line ++
    [':'] ++ Text.ofInt location.column ++ [':'] ++ location.message

/-- A label is cut off by the first colon. It names no source itself, and it is no drive that a path
right after it would continue. -/
structure IsLabel (location : Location) (label : Text) : Prop where
  colonless : ':' ∉ label
  single : '\n' ∉ label
  sourceless : ErrorReport.namesSource label = false
  driveless : location.gap = [] → ErrorReport.isSlashed location.file →
    ErrorReport.isDrive (Text.trim label) = false

structure Proper (location : Location) : Prop where
  label : ∀ label ∈ location.label, location.IsLabel label
  gap : location.gap.IsPadding
  trimmed : Text.trim location.file = location.file
  source : Text.endsWith Path.sourceExtension location.file
  colonless : ':' ∉ location.path
  single : '\n' ∉ location.file
  drive : ∀ letter ∈ location.drive, Text.isLetter letter ∧ ErrorReport.isSlashed location.path
  line : Coordinate.IsShort location.line
  column : Coordinate.IsShort location.column
  message : '\n' ∉ location.message
  plain : Text.contains ErrorReport.detailMarker location.text = false

def front (location : Location) : List Text :=
  location.label.toList ++ (location.drive.map fun letter => location.gap ++ [letter]).toList

def name (location : Location) : Text :=
  match location.drive with
  | none => location.gap ++ location.path
  | some _ => location.path

/-- What the error says: its message without colons, and the elaboration after it. -/
def explained (location : Location) (details : List Text) : Text :=
  Text.trim (location.message.filter (· ≠ ':')) ++
    details.head?.elim [] fun detail => [':', '\n'] ++ Text.trim detail

variable {location : Location}

private theorem colon_not_mem_gap (proper : location.Proper) : ':' ∉ location.gap := by
  intro member
  have blank : Text.isBlank ':' = true := List.all_eq_true.mp proper.gap.blank ':' member
  exact absurd blank (by decide)

private theorem letter_printed (proper : location.Proper) {letter : Char} (driven : location.drive = some letter) :
    letter ≠ ':' ∧ Text.isBlank letter = false := by
  have trimmed := proper.trimmed
  simp only [file, driven] at trimmed
  refine ⟨?_, Text.isBlank_of_trimmed trimmed⟩
  rintro rfl
  have colon : Text.isLetter ':' = true := (proper.drive ':' (by simp [driven])).1
  exact absurd colon (by decide +kernel)

private theorem colon_not_mem_front (proper : location.Proper) : ∀ field ∈ location.front, ':' ∉ field := by
  intro field member
  rcases List.mem_append.mp member with labelled | driven
  · exact (proper.label field (Option.mem_toList.mp labelled)).colonless
  · obtain ⟨letter, known, rfl⟩ := Option.map_eq_some_iff.mp (Option.mem_toList.mp driven)
    have other := (letter_printed proper known).1
    simp [colon_not_mem_gap proper, Ne.symm other]

private theorem colon_not_mem_name (proper : location.Proper) : ':' ∉ location.name := by
  unfold name
  split
  · simp [colon_not_mem_gap proper, proper.colonless]
  · exact proper.colonless

private theorem text_eq_fields (location : Location) :
    location.text = location.front.flatMap (· ++ [':']) ++ (location.name ++ ':' :: (Text.ofInt location.line ++
      ':' :: (Text.ofInt location.column ++ ':' :: location.message))) := by
  unfold text front name file
  cases location.label <;> cases location.drive <;> simp

private theorem fields_text (proper : location.Proper) :
    Line.fields location.text = location.front ++ location.name :: Text.ofInt location.line ::
      Text.ofInt location.column :: Text.split ':' location.message := by
  have number (n : Int) : ':' ∉ Text.ofInt n := Text.not_mem_ofInt (by decide) (by decide) n
  rw [text_eq_fields, Line.fields_flatMap (colon_not_mem_front proper), Line.fields,
    Text.split_append_cons (colon_not_mem_name proper), Text.split_append_cons (number _),
    Text.split_append_cons (number _)]

private theorem exists_of_isSlashed {path : Text} (slashed : ErrorReport.isSlashed path) :
    ∃ slash rest, path = slash :: rest ∧ Text.isBlank slash = false := by
  simp only [ErrorReport.isSlashed, Bool.or_eq_true, beq_iff_eq] at slashed
  rcases slashed with backward | forward
  · obtain ⟨rest, rfl⟩ := List.head?_eq_some_iff.mp backward
    exact ⟨_, rest, rfl, by decide⟩
  · obtain ⟨rest, rfl⟩ := List.head?_eq_some_iff.mp forward
    exact ⟨_, rest, rfl, by decide⟩

private theorem trim_name (proper : location.Proper) : Text.trim location.name = location.path := by
  have trimmed := proper.trimmed
  cases driven : location.drive with
  | none =>
    simp only [file, driven] at trimmed
    have padded := Text.trim_pad proper.gap.blank (show Text.isBlankLine [] by rfl) location.path
    rw [List.append_nil, trimmed] at padded
    simpa [name, driven] using padded
  | some letter =>
    simp only [file, driven] at trimmed
    obtain ⟨slash, rest, path, printed⟩ := exists_of_isSlashed (proper.drive letter (by simp [driven])).2
    have speaks : Text.isBlankLine location.path = false := by simp [path, Text.isBlankLine, printed]
    have ending := Text.trimEnd_append speaks [letter, ':']
    rw [List.cons_append, ← Text.trim_cons (letter_printed proper driven).2] at ending
    have same : location.path = Text.trimEnd location.path := by simpa using trimmed.symm.trans ending
    rw [name, driven]
    simp only [path, Text.trim_cons printed]
    rw [← path, ← same]

private theorem namesSource_name (proper : location.Proper) : ErrorReport.namesSource location.name := by
  have source := proper.source
  rw [ErrorReport.namesSource, trim_name proper]
  cases driven : location.drive with
  | none => simpa [file, driven] using source
  | some letter =>
    simp only [file, driven, Text.endsWith, List.isSuffixOf_iff_suffix, List.suffix_cons_iff] at source ⊢
    rcases source with whole | whole | kept
    · simp [Path.sourceExtension] at whole
    · simp [Path.sourceExtension] at whole
    · exact kept

private theorem trim_drive (proper : location.Proper) {letter : Char} (driven : location.drive = some letter) :
    Text.trim (location.gap ++ [letter]) = [letter] := by
  have padded := Text.trim_pad proper.gap.blank (show Text.isBlankLine [] by rfl) [letter]
  rw [List.append_nil] at padded
  rw [padded, Text.trim_cons (letter_printed proper driven).2]
  simp [Text.trimEnd, (letter_printed proper driven).2]

private theorem namesSource_front (proper : location.Proper) :
    ∀ field ∈ location.front, ErrorReport.namesSource field = false := by
  intro field member
  rcases List.mem_append.mp member with labelled | driven
  · exact (proper.label field (Option.mem_toList.mp labelled)).sourceless
  · obtain ⟨letter, known, rfl⟩ := Option.map_eq_some_iff.mp (Option.mem_toList.mp driven)
    rw [ErrorReport.namesSource, trim_drive proper known]
    simp [Text.endsWith, Path.sourceExtension, List.isSuffixOf, List.isPrefixOf]

private theorem driveless_label (proper : location.Proper) {label : Text} (driveless : location.drive = none)
    (labelled : location.label = some label) :
    (ErrorReport.isDrive (Text.trim label) && ErrorReport.isSlashed location.name) = false := by
  have allowed := (proper.label label (by simp [labelled])).driveless
  cases spaced : location.gap with
  | nil =>
    have same : location.name = location.file := by simp [name, file, driveless, spaced]
    rw [same]
    cases slashed : ErrorReport.isSlashed location.file with
    | false => simp
    | true => simp [allowed spaced slashed]
  | cons c blanks =>
    have blank : Text.isBlank c = true := List.all_eq_true.mp proper.gap.blank c (by simp [spaced])
    cases slashed : ErrorReport.isSlashed location.name with
    | false => simp
    | true =>
      obtain ⟨slash, rest, same, printed⟩ := exists_of_isSlashed slashed
      simp only [name, driveless, spaced, List.cons_append, List.cons.injEq] at same
      simp [← same.1, blank] at printed

/-- A label is not taken for a drive, and a drive is put back. -/
theorem fileName_fields (proper : location.Proper) (rest : List Text) :
    ErrorReport.fileName (location.front ++ location.name :: rest) location.front.length = location.file := by
  have named := trim_name proper
  cases driven : location.drive with
  | none =>
    have whole : location.file = location.path := by simp [file, driven]
    cases labelled : location.label with
    | none =>
      simp only [front, driven, labelled]
      exact (ErrorReport.fileName_first location.name rest).trans (named.trans whole.symm)
    | some label =>
      have skipped := ErrorReport.fileName_after [] label location.name rest
      rw [driveless_label proper driven labelled, if_neg (by decide)] at skipped
      simp only [front, driven, labelled]
      exact skipped.trans (named.trans whole.symm)
  | some letter =>
    have known := proper.drive letter (by simp [driven])
    have whole : location.file = [letter] ++ ':' :: location.path := by simp [file, driven]
    have same : location.name = location.path := by simp [name, driven]
    have glued := ErrorReport.fileName_after location.label.toList (location.gap ++ [letter]) location.name rest
    rw [trim_drive proper driven, named, same, ErrorReport.isDrive, known.1, known.2, if_pos (by decide),
      ← whole] at glued
    simpa [front, driven, same] using glued

theorem readLocation_text (proper : location.Proper) (raw : Text) :
    ErrorReport.readLocation raw location.text =
      .answer ⟨location.file, .known location.line, .known location.column, location.explained [], raw⟩ := by
  have cut := fields_text proper
  rw [ErrorReport.readLocation_located cut (namesSource_front proper) (namesSource_name proper) proper.line
    proper.column, cut, fileName_fields proper, Text.flatten_split]
  simp [explained]

private theorem newline_not_mem_text (proper : location.Proper) : '\n' ∉ location.text := by
  have number (n : Int) : '\n' ∉ Text.ofInt n := Text.not_mem_ofInt (by decide) (by decide) n
  have label : '\n' ∉ location.label.elim [] (· ++ [':']) := by
    cases labelled : location.label with
    | none => simp
    | some label => simpa using (proper.label label (by simp [labelled])).single
  simp [text, label, number, proper.gap.single, proper.single, proper.message]

private theorem contains_text (proper : location.Proper) : Text.contains ErrorReport.locationMarker location.text := by
  obtain ⟨stem, named⟩ := List.isSuffixOf_iff_suffix.mp proper.source
  rw [Text.contains_iff_infix]
  refine ⟨location.label.elim [] (· ++ [':']) ++ location.gap ++ stem, Text.ofInt location.line ++ [':'] ++
    Text.ofInt location.column ++ [':'] ++ location.message, ?_⟩
  simp [text, ← named, ErrorReport.locationMarker, Path.sourceExtension]

section Report

variable {before after details : List Text}

theorem lineWith?_location (proper : location.Proper)
    (unplaced : ∀ line ∈ before, Text.contains ErrorReport.locationMarker line = false) :
    Text.lineWith? ErrorReport.locationMarker (before ++ location.text :: after ++ details) =
      some location.text := by
  rw [List.append_assoc, Text.lineWith?_skip unplaced]
  exact List.find?_cons_of_pos (contains_text proper)

theorem lineWith?_detail (proper : location.Proper)
    (plain : ∀ line ∈ before ++ after, Text.contains ErrorReport.detailMarker line = false)
    (detailed : ∀ line ∈ details.head?, Text.contains ErrorReport.detailMarker line) :
    Text.lineWith? ErrorReport.detailMarker (before ++ location.text :: after ++ details) = details.head? := by
  rw [Text.lineWith?_skip, Text.lineWith?_head detailed]
  intro line member
  rcases List.mem_append.mp member with earlier | later
  · exact plain line (List.mem_append_left _ earlier)
  · rcases List.mem_cons.mp later with rfl | later
    · exact proper.plain
    · exact plain line (List.mem_append_right _ later)

theorem newline_not_mem_report (proper : location.Proper)
    (whole : ∀ line ∈ before ++ after ++ details, '\n' ∉ line) :
    ∀ line ∈ before ++ location.text :: after ++ details, '\n' ∉ line := by
  intro line member
  simp only [List.mem_append, List.mem_cons] at member whole
  rcases member with (earlier | rfl | later) | later
  · exact whole line (.inl (.inl earlier))
  · exact newline_not_mem_text proper
  · exact whole line (.inl (.inr later))
  · exact whole line (.inr later)

/-- An error is read back from its first location, whatever lines stand around it. Lines before it have no
location, and none before the elaboration have one. -/
theorem extract_text (proper : location.Proper)
    (unplaced : ∀ line ∈ before, Text.contains ErrorReport.locationMarker line = false)
    (plain : ∀ line ∈ before ++ after, Text.contains ErrorReport.detailMarker line = false)
    (detailed : ∀ line ∈ details.head?, Text.contains ErrorReport.detailMarker line)
    (whole : ∀ line ∈ before ++ after ++ details, '\n' ∉ line) :
    let output := Text.unlines (before ++ location.text :: after ++ details)
    ErrorReport.extract output =
      .answer ⟨location.file, .known location.line, .known location.column, location.explained details,
        Text.withoutBlankLines output⟩ := by
  intro output
  have single := newline_not_mem_report proper whole
  have located := @lineWith?_location _ before after details proper unplaced
  rw [ErrorReport.extract_unlines single located (readLocation_text proper _), ErrorReport.elaborate,
    lineWith?_detail proper plain detailed]
  cases details with
  | nil => rfl
  | cons detail rest => simp [explained, ErrorReport.detailSeparator, output]

/-- A label, a drive and colons in the message, between a blank line, a remark, another location and an
elaboration. -/
theorem extract_text_labelled :
    let location : Location :=
      ⟨some "error".toList, [' '], some 'C', "\\w\\a.v".toList, 3, -1, " unexpected: `:` ".toList⟩
    let lines : List Text := ["V 0.4".toList, [], location.text, "b.v:1:2: other".toList, " * a: b ".toList, [' ']]
    Text.unlines lines =
        "V 0.4\n\nerror: C:\\w\\a.v:3:-1: unexpected: `:` \nb.v:1:2: other\n * a: b \n ".toList ∧
      ErrorReport.extract (Text.unlines lines) =
        .answer ⟨"C:\\w\\a.v".toList, .known 3, .known (-1), "unexpected ``:\n* a: b".toList,
          Text.withoutBlankLines (Text.unlines lines)⟩ := by
  intro location lines
  have label : location.IsLabel "error".toList := ⟨by decide, by decide, by decide, by decide⟩
  have drive : ∀ letter ∈ location.drive, Text.isLetter letter ∧ ErrorReport.isSlashed location.path := by
    intro letter known
    cases known
    exact ⟨by decide +kernel, by decide⟩
  have proper : location.Proper := {
    label := by simpa [location] using label
    gap := by decide
    trimmed := by decide
    source := by decide
    colonless := by decide
    single := by decide
    drive := drive
    line := by decide
    column := by decide
    message := by decide
    plain := by decide }
  have read := @extract_text location ["V 0.4".toList, []] ["b.v:1:2: other".toList] [" * a: b ".toList, [' ']]
    proper (by decide) (by decide) (by decide) (by decide)
  exact ⟨by decide, read⟩

end Report

end Location

end VDiagnostics
