import VDiagnostics.Proofs.Legibility

/-! A line that is added to warnings takes nothing from the others. Each line that starts a record gives
its location whatever stands around it, so long as the whole output can be read. -/

namespace VDiagnostics

/-- Where a record points. -/
def Record.location (record : Record) : Text × Coordinate × Coordinate :=
  (record.file, record.line, record.column)

namespace WarningList

open Line (Grammar)

/-- The location of the record that a line starts, if it starts one. -/
def location? (grammar : Grammar) (line : Text) : Option (Text × Coordinate × Coordinate) :=
  match grammar.classify (Text.trim line) with
  | .record fields =>
    match Coordinate.read (Line.field fields 2), Coordinate.read (Line.field fields 3) with
    | .ok row, .ok column => some (Line.field fields 1, row, column)
    | _, _ => none
  | _ => none

def locations (grammar : Grammar) (lines : List Text) : List (Text × Coordinate × Coordinate) :=
  lines.filterMap (location? grammar)

private theorem locations_append (grammar : Grammar) (front back : List Text) :
    locations grammar (front ++ back) = locations grammar front ++ locations grammar back :=
  List.filterMap_append

private theorem locations_cons (grammar : Grammar) (line : Text) (rest : List Text) :
    locations grammar (line :: rest) = (location? grammar line).toList ++ locations grammar rest := by
  rw [locations, List.filterMap_cons]
  cases location? grammar line <;> rfl

def Pending.location (pending : Pending) : Text × Coordinate × Coordinate :=
  pending.record.location

private theorem location_finish (pending : Pending) : pending.finish.location = pending.location := rfl

variable {grammar : Grammar} {raw : Text}

private theorem readRecord_location {line : Text} {fields : List Text} {record : Record}
    (read : (readRecord grammar raw line fields).result = .ok record) :
    Coordinate.read (Line.field fields 2) = .ok record.line ∧
      Coordinate.read (Line.field fields 3) = .ok record.column ∧ record.file = Line.field fields 1 := by
  obtain ⟨row, rowRead, later⟩ := Traced.andThen_result_ok read
  obtain ⟨column, columnRead, told⟩ := Traced.andThen_result_ok later
  dsimp only at told
  split at told <;> cases told <;> exact ⟨rowRead, columnRead, rfl⟩

/-- A line adds its own location at most and leaves those of the others as they are. -/
private theorem takeLine_locations {pending next : List Pending} {line : Text}
    (taken : (takeLine grammar raw pending line).result = .ok next) :
    next.map Pending.location = (location? grammar line).toList ++ pending.map Pending.location := by
  unfold takeLine at taken
  unfold location?
  cases kind : grammar.classify (Text.trim line) with
  | blank =>
    simp only [kind] at taken
    cases taken
    rfl
  | continuation fields =>
    simp only [kind] at taken
    cases pending <;> cases taken <;> rfl
  | record fields =>
    simp only [kind] at taken
    obtain ⟨record, read, rfl⟩ := Traced.map_result_ok taken
    obtain ⟨row, column, file⟩ := readRecord_location read
    simp only [row, column, ← file]
    rfl

private theorem fold_locations {pending last : List Pending} {lines : List Text}
    (taken : (Traced.fold (takeLine grammar raw) pending lines).result = .ok last) :
    last.map Pending.location = (locations grammar lines).reverse ++ pending.map Pending.location := by
  induction lines generalizing pending with
  | nil =>
    cases taken
    rfl
  | cons line rest ih =>
    obtain ⟨next, first, others⟩ := Traced.andThen_result_ok taken
    rw [ih others, takeLine_locations first, locations_cons, List.reverse_append, List.append_assoc]
    cases location? grammar line <;> rfl

theorem extract_locations {output : Text} {found : List Record}
    (read : (extract grammar output).result = .ok found) :
    found.map Record.location = locations grammar (Text.lines output) := by
  rw [extract_eq_fold_lines] at read
  obtain ⟨pending, taken, rfl⟩ := Traced.map_result_ok read
  have places := fold_locations taken
  rw [List.map_nil, List.append_nil] at places
  have finished : Record.location ∘ Pending.finish = Pending.location := funext location_finish
  rw [List.map_map, finished, List.map_reverse, places, List.reverse_reverse]

end WarningList

namespace Extraction

open WarningList (location? locations locations_append locations_cons)

private theorem records_warning {lines : List Text} (present : lines ≠ []) (whole : ∀ line ∈ lines, '\n' ∉ line)
    (format : Format.ofOutput (Text.unlines lines) = .warning) (legible : IsLegible (Text.unlines lines)) :
    ∃ found, (records (Text.unlines lines)).result = .ok (.warning, found) ∧
      found.map Record.location = locations .standard lines := by
  have answered := records_isOk.mpr legible
  unfold records at answered ⊢
  simp only [format, Traced.map_result] at answered ⊢
  cases read : (WarningList.extract .standard (Text.unlines lines)).result with
  | error fault =>
    rw [read] at answered
    cases answered
  | ok found =>
    refine ⟨found, rfl, ?_⟩
    rw [WarningList.extract_locations read, Text.lines_unlines present whole]

/-- The first line alone says that an output reports warnings. -/
private theorem ofOutput_warning_of_head {first : Text} {rest others : List Text}
    (format : Format.ofOutput (Text.unlines (first :: rest)) = .warning) :
    Format.ofOutput (Text.unlines (first :: others)) = .warning := by
  rw [Format.ofOutput_eq_warning, Text.startsWith_unlines Format.warningStart_single] at format ⊢
  exact format

/-- An output stays legible as long as lines are only taken away. -/
private theorem isLegible_of_subset {lines more : List Text} (present : lines ≠ []) (inside : lines ⊆ more)
    (whole : ∀ line ∈ more, '\n' ∉ line) (format : Format.ofOutput (Text.unlines lines) = .warning)
    (longer : Format.ofOutput (Text.unlines more) = .warning) (legible : IsLegible (Text.unlines more)) :
    IsLegible (Text.unlines lines) := by
  intro numeral member
  refine legible numeral ?_
  rw [numerals_warning present (fun line member => whole line (inside member)) format] at member
  rw [numerals_warning (List.ne_nil_of_mem (inside (List.head_mem present))) whole longer]
  obtain ⟨line, origin, read⟩ := List.mem_flatMap.mp member
  exact List.mem_flatMap.mpr ⟨line, inside origin, read⟩

/-- The output is read, and where it lists warnings, no line behind the first takes a record from the others: they
give what each of them starts, with that line and without it. -/
structure KeepsOthers (output : Text) : Prop where
  answered : (records output).result.isOk
  others : ∀ (front back : List Text) (line : Text), front ≠ [] → (∀ other ∈ front ++ line :: back, '\n' ∉ other) →
    output = Text.unlines (front ++ line :: back) → Format.ofOutput (Text.unlines (front ++ back)) = .warning →
    ∃ kept found,
      (records (Text.unlines (front ++ back))).result = .ok (.warning, kept) ∧
      (records output).result = .ok (.warning, found) ∧
      kept.map Record.location = locations .standard front ++ locations .standard back ∧
      found.map Record.location =
        locations .standard front ++ (location? .standard line).toList ++ locations .standard back

/-- A numeral that is too long is all that can stop the extraction. -/
theorem keepsOthers_iff_isLegible (output : Text) : KeepsOthers output ↔ IsLegible output := by
  refine ⟨fun keeps => records_isOk.mp keeps.answered, fun legible => ⟨records_isOk.mpr legible, ?_⟩⟩
  rintro front back line headed whole rfl format
  obtain ⟨first, rest, rfl⟩ := List.exists_cons_of_ne_nil headed
  have longer : Format.ofOutput (Text.unlines (first :: rest ++ line :: back)) = .warning :=
    ofOutput_warning_of_head format
  have inside : first :: rest ++ back ⊆ first :: rest ++ line :: back :=
    ((List.sublist_cons_self line back).append_left (first :: rest)).subset
  have shorter : IsLegible (Text.unlines (first :: rest ++ back)) :=
    isLegible_of_subset (by simp) inside whole format longer legible
  obtain ⟨kept, keptRead, keptPlaces⟩ :=
    records_warning (by simp) (fun other member => whole other (inside member)) format shorter
  obtain ⟨found, foundRead, foundPlaces⟩ := records_warning (by simp) whole longer legible
  refine ⟨kept, found, keptRead, foundRead, ?_, ?_⟩
  · rw [keptPlaces, locations_append]
  · rw [foundPlaces, locations_append, locations_cons _ line, List.append_assoc]

/-- A line between two warnings that names no place. -/
theorem keepsOthers_garbled :
    let lines : List Text := ["warning: a.v:1:2: x".toList, "b.v: no place".toList, "* more".toList,
      "warning: c.v:3:4: y".toList]
    IsLegible (Text.unlines lines) ∧ KeepsOthers (Text.unlines lines) := by
  intro lines
  have legible : IsLegible (Text.unlines lines) := by decide +kernel
  exact ⟨legible, (keepsOthers_iff_isLegible (Text.unlines lines)).mpr legible⟩

/-- A sound line is lost to one behind it with a numeral that is one digit too long. -/
theorem records_lost_to_long_numeral :
    let sound : Text := "warning: a.v:1:2: x".toList
    (∃ record, (records (Text.unlines [sound])).result = .ok (.warning, [record]) ∧
      record.location = ("a.v".toList, .known 1, .known 2)) ∧
      (records (Text.unlines [sound, WarningList.onesLine 4301])).result.isOk = false := by
  intro sound
  refine ⟨⟨⟨"a.v".toList, .known 1, .known 2, ['x'], sound⟩, by decide +kernel, rfl⟩, ?_⟩
  have whole : ∀ line ∈ [sound, WarningList.onesLine 4301], '\n' ∉ line := by
    intro line member
    rcases List.mem_pair.mp member with rfl | rfl
    · decide
    · exact WarningList.newline_not_mem_onesLine 4301
  have format : Format.ofOutput (Text.unlines [sound, WarningList.onesLine 4301]) = .warning := by
    rw [Format.ofOutput_eq_warning, Text.startsWith_unlines Format.warningStart_single]
    decide
  have illegible := not_isLegible_ones whole format (List.mem_cons_of_mem _ List.mem_cons_self) (by decide)
  rwa [← records_isOk, Bool.not_eq_true] at illegible

end Extraction

end VDiagnostics
