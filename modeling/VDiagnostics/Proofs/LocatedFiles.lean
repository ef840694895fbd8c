import VDiagnostics.Proofs.ErrorLines

/-! Where the file of an error is found. The line is searched for as it was printed and the file among its trimmed
fields, and what the first search finds the second one finds too. -/

namespace VDiagnostics

/-- A name as it counts: trimmed, and with a source's ending. -/
structure Path.IsSourceName (name : Text) : Prop where
  trimmed : Text.trim name = name
  filled : name ≠ []
  source : Text.endsWith sourceExtension name

namespace ErrorReport

open VDiagnostics.Path (sourceExtension IsSourceName)

/-- A source's ending is print, so no blanks are cut off behind it. -/
private theorem trimEnd_source {name : Text} (source : Text.endsWith sourceExtension name) :
    Text.trimEnd name = name := by
  obtain ⟨stem, rfl⟩ := List.isSuffixOf_iff_suffix.mp source
  rw [Text.trimEnd_append (by decide)]
  rfl

private theorem namesSource_append (stem : Text) : namesSource (stem ++ sourceExtension) := by
  have kept : Text.endsWith sourceExtension (Text.trimStart (stem ++ sourceExtension)) := by
    rw [Text.trimStart, List.dropWhile_append]
    split
    · decide
    · exact List.isSuffixOf_iff_suffix.mpr (List.suffix_append _ _)
  rwa [namesSource, Text.trim, trimEnd_source kept]

private theorem isSourceName_of_trimmed {name : Text} (trimmed : Text.trim name = name)
    (source : Text.endsWith sourceExtension name) : IsSourceName name where
  trimmed := trimmed
  filled := by
    rintro rfl
    exact absurd source (by decide)
  source := source

private theorem exists_of_isDrive {drive : Text} (driven : isDrive drive) : ∃ letter, drive = [letter] := by
  unfold isDrive at driven
  split at driven
  next letter => exact ⟨letter, rfl⟩
  next => cases driven

/-- The first line that has a location. -/
def IsFirstLocated (lines : List Text) (line : Text) : Prop :=
  ∃ before after, lines = before ++ line :: after ∧ Text.contains locationMarker line ∧
    ∀ earlier ∈ before, Text.contains locationMarker earlier = false

private theorem isFirstLocated_iff {lines : List Text} {line : Text} :
    IsFirstLocated lines line ↔ Text.lineWith? locationMarker lines = some line := by
  rw [Text.lineWith?, List.find?_eq_some_iff_append, IsFirstLocated]
  constructor
  · rintro ⟨before, after, cut, marked, first⟩
    exact ⟨marked, before, after, cut, fun earlier member => by simp [first earlier member]⟩
  · rintro ⟨marked, before, after, cut, first⟩
    exact ⟨before, after, cut, marked, fun earlier member => by simpa using first earlier member⟩

/-- The first field with a source's ending, once it is trimmed. Another field comes after it. -/
structure IsFilePlace (fields : List Text) (place : Nat) : Prop where
  source : Text.endsWith sourceExtension (Line.field fields place)
  first : ∀ earlier < place, Text.endsWith sourceExtension (Line.field fields earlier) = false
  followed : place + 1 < fields.length

/-- The colon of the marker cuts a field off right behind the ending. -/
private theorem fields_of_marked {line : Text} (marked : Text.contains locationMarker line) :
    ∃ front name next rest, Line.fields line = front ++ name :: next :: rest ∧ namesSource name := by
  obtain ⟨before, after, rfl⟩ := Text.contains_iff_infix.mp marked
  have colonless : ':' ∉ sourceExtension := by decide
  obtain ⟨front, last, _, cut⟩ := Text.split_append_whole colonless before
  obtain ⟨next, rest, following⟩ := List.exists_cons_of_ne_nil (Text.split_ne_nil ':' after)
  refine ⟨front, last ++ sourceExtension, next, rest, ?_, namesSource_append last⟩
  have spelled : before ++ locationMarker ++ after = (before ++ sourceExtension) ++ ':' :: after := by
    simp [locationMarker, sourceExtension]
  rw [spelled, Line.fields, Text.split_append, cut, following]
  simp

private theorem endsWith_field {fields : List Text} {place : Nat} (inside : place < fields.length) :
    Text.endsWith sourceExtension (Line.field fields place) = namesSource fields[place] := by
  rw [Line.field, List.getD_eq_getElem?_getD, List.getElem?_eq_getElem inside, Option.getD_some, namesSource]

/-- A line with the marker has a field that names a source, and the first such field is not the last of all. -/
private theorem exists_isFilePlace {line : Text} (marked : Text.contains locationMarker line) :
    ∃ place, (Line.fields line).findIdx? namesSource = some place ∧ IsFilePlace (Line.fields line) place := by
  obtain ⟨front, name, next, rest, cut, source⟩ := fields_of_marked marked
  rw [cut]
  have named : (front ++ name :: next :: rest).findIdx? namesSource ≠ none := by
    intro absent
    have unnamed := List.findIdx?_eq_none_iff.mp absent name (by simp)
    simp [source] at unnamed
  obtain ⟨place, found⟩ := Option.ne_none_iff_exists'.mp named
  obtain ⟨inside, here, first⟩ := List.findIdx?_eq_some_iff_getElem.mp found
  refine ⟨place, found, ⟨by rwa [endsWith_field inside], fun earlier before => ?_, ?_⟩⟩
  · rw [endsWith_field (before.trans inside)]
    simpa using first earlier before
  · -- The field that the marker cut off is found at the latest, and it has another behind it.
    have reached : place ≤ front.length := by
      by_contra beyond
      have passed := first front.length (by omega)
      simp [source] at passed
    simp only [List.length_append, List.length_cons]
    omega

/-- A drive that is put back is print, so the whole name is still trimmed. -/
theorem isSourceName_fileName {fields : List Text} {place : Nat}
    (source : Text.endsWith sourceExtension (Line.field fields place)) : IsSourceName (fileName fields place) := by
  have trimmed (place : Nat) : Text.trim (Line.field fields place) = Line.field fields place := Text.trim_trim _
  unfold fileName
  dsimp only
  split
  next glued =>
    simp only [Bool.and_eq_true] at glued
    obtain ⟨letter, single⟩ := exists_of_isDrive glued.1.2
    have printed : Text.isBlank letter = false := Text.isBlank_of_trimmed (single ▸ trimmed (place - 1))
    have whole : Text.endsWith sourceExtension (letter :: ':' :: Line.field fields place) :=
      List.isSuffixOf_iff_suffix.mpr
        ((List.isSuffixOf_iff_suffix.mp source).trans ⟨[letter, ':'], rfl⟩)
    rw [single]
    exact isSourceName_of_trimmed ((Text.trim_cons printed _).trans (trimEnd_source whole)) whole
  next => exact isSourceName_of_trimmed (trimmed place) source

/-- The file of an error is really found. A report without a location gives neither file nor line nor column, and
one note says so. Any other names the file in the first field with a source's ending, which a line with a location
never lacks, and is noted only where its line or its column is missing. -/
theorem file_found {output : Text} {record : Record} (read : (extract output).result = .ok record) :
    let lines := (Text.lines output).filter fun line => !Text.isBlankLine line
    ((∀ line ∈ lines, Text.contains locationMarker line = false) →
      record.file = [] ∧ record.line = .unknown ∧ record.column = .unknown ∧
        (extract output).trace = [.malformed (Text.withoutBlankLines output) Anomaly.noLocation]) ∧
    ((∃ line ∈ lines, Text.contains locationMarker line) →
      ∃ line place, IsFirstLocated lines line ∧
        (Line.fields line).findIdx? namesSource = some place ∧ fileField (Line.fields line) = place ∧
        IsFilePlace (Line.fields line) place ∧
        record.file = fileName (Line.fields line) place ∧ IsSourceName record.file ∧
        (extract output).trace =
          if record.line = .unknown ∨ record.column = .unknown then [.malformed line Anomaly.notNumeric] else []) := by
  intro lines
  have place : Text.lineWith? locationMarker lines = Text.lineWith? locationMarker (Text.lines output) :=
    Text.lineWith?_filter (by decide) _
  rw [extract_eq_readFrom, ← place] at read ⊢
  obtain ⟨plain, told, rfl⟩ := Traced.map_result_ok read
  rw [elaborate_file, elaborate_line, elaborate_column]
  refine ⟨fun unplaced => ?_, fun placed => ?_⟩
  · have nowhere : Text.lineWith? locationMarker lines = none := List.find?_eq_none.mpr (by simpa using unplaced)
    rw [nowhere] at told ⊢
    obtain rfl := Except.ok.inj told
    exact ⟨rfl, rfl, rfl, rfl⟩
  · obtain ⟨line, located⟩ := Option.isSome_iff_exists.mp (List.find?_isSome.mpr placed)
    have first : IsFirstLocated lines line := isFirstLocated_iff.mpr located
    obtain ⟨place, found, holds⟩ := exists_isFilePlace (List.find?_some located)
    have here : fileField (Line.fields line) = place := congrArg (·.getD 0) found
    rw [Text.lineWith?, located] at told ⊢
    obtain ⟨gives, trace⟩ := readLocation_ok told
    have file : plain.file = fileName (Line.fields line) place := here ▸ gives.file
    exact ⟨line, place, first, found, here, holds, file, file ▸ isSourceName_fileName holds.source, trace⟩

/-- A label and a drive before the file and no number for a column, between a blank line and another location. -/
theorem file_found_drive :
    let output := "V 0.4\n \ncc : C:\\w\\a.v:3:?: oops\nb.v:1:2: y".toList
    let line := "cc : C:\\w\\a.v:3:?: oops".toList
    let record : Record := ⟨"C:\\w\\a.v".toList, .known 3, .unknown, "oops".toList, Text.withoutBlankLines output⟩
    (extract output).result = .ok record ∧ (Line.fields line).findIdx? namesSource = some 2 ∧
      IsFilePlace (Line.fields line) 2 ∧ IsSourceName record.file ∧
      (extract output).trace = [.malformed line Anomaly.notNumeric] := by
  intro output line record
  have read : (extract output).result = .ok record := by decide +kernel
  obtain ⟨other, place, first, found, _, holds, _, name, trace⟩ := (file_found read).2 (by decide +kernel)
  have same : some other = some line := (isFirstLocated_iff.mp first).symm.trans (by decide +kernel)
  obtain rfl := Option.some.inj same
  have second : (Line.fields line).findIdx? namesSource = some 2 := by decide +kernel
  obtain rfl := Option.some.inj (found.symm.trans second)
  exact ⟨read, second, holds, name, trace⟩

end ErrorReport

end VDiagnostics
