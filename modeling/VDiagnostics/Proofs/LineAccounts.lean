import VDiagnostics.Proofs.Segments
import Mathlib.Data.List.Forall2

/-! What becomes of each line of warning output. A line starts the record of its segment, joins the record of
the segment that it is in, or is noted, and nothing is noted twice. -/

namespace VDiagnostics

namespace Traced

variable {ε α β : Type}

private theorem ofExcept_result (result : Except Fault α) : (ofExcept result : Traced ε α).result = result := rfl

/-- A list that was read to its end gives a value for each item, and the trace is that of one item after the
other. -/
theorem collect_ok {read : α → Traced ε β} {items : List α} {values : List β}
    (answered : (collect read items).result = .ok values) :
    List.Forall₂ (fun item value => (read item).result = .ok value) items values ∧
      (collect read items).trace = items.flatMap fun item => (read item).trace := by
  induction items generalizing values with
  | nil =>
    cases answered
    exact ⟨.nil, rfl⟩
  | cons item rest ih =>
    obtain ⟨value, first, later⟩ := andThen_result_ok answered
    obtain ⟨others, collected, rfl⟩ := map_result_ok later
    obtain ⟨given, trace⟩ := ih collected
    refine ⟨.cons first given, ?_⟩
    rw [collect, andThen_of_ok first, List.flatMap_cons, ← trace]
    rfl

end Traced

namespace WarningList

open Line (Grammar)

namespace Segment

/-- The record that a segment stands for. Its first line has the label, file, line, column and message in its
fields, and the other lines go behind the message. -/
structure Gives (segment : Segment) (raw : Text) (record : Record) : Prop where
  file : record.file = Line.field (Line.fields segment.head) 1
  line : Coordinate.read (Line.field (Line.fields segment.head) 2) = .ok record.line
  column : Coordinate.read (Line.field (Line.fields segment.head) 3) = .ok record.column
  message : record.message =
    Line.field (Line.fields segment.head) 4 ++ segment.tail.flatMap fun line => ['\n', ' '] ++ line
  raw : record.raw = raw

/-- A segment's first line lacks fields, or has no number where its line or its column should be. -/
def IsMalformed (segment : Segment) (grammar : Grammar) : Prop :=
  ((Line.fields segment.head).length : Int) < grammar.minFields ∨
    Coordinate.read (Line.field (Line.fields segment.head) 2) = .ok .unknown ∨
    Coordinate.read (Line.field (Line.fields segment.head) 3) = .ok .unknown

instance (segment : Segment) (grammar : Grammar) : Decidable (segment.IsMalformed grammar) :=
  inferInstanceAs (Decidable (_ ∨ _))

/-- The one anomaly of a malformed line. That fields are lacking goes before all else. -/
def complaint (grammar : Grammar) (segment : Segment) : Anomaly :=
  .malformed segment.head
    (if ((Line.fields segment.head).length : Int) < grammar.minFields then
      Anomaly.fieldsMissing grammar.minFields (Line.fields segment.head).length
    else Anomaly.notNumeric)

variable {grammar : Grammar} {raw : Text} {segment : Segment} {record : Record}

/-- What is found wrong with a line shows in its fields alone. -/
theorem defect_eq_complaint (rowRead : Coordinate.read (Line.field (Line.fields segment.head) 2) = .ok record.line)
    (columnRead : Coordinate.read (Line.field (Line.fields segment.head) 3) = .ok record.column) :
    ((defect? grammar (Line.fields segment.head) record).map (Anomaly.malformed segment.head)).toList =
      if segment.IsMalformed grammar then [segment.complaint grammar] else [] := by
  have malformed : segment.IsMalformed grammar ↔
      ((Line.fields segment.head).length : Int) < grammar.minFields ∨ ¬ record.isLocated := by
    rw [IsMalformed, rowRead, columnRead, Except.ok.injEq, Except.ok.injEq, Record.isLocated_iff, not_and_or,
      not_ne_iff, not_ne_iff]
  rw [defect?, complaint]
  by_cases few : ((Line.fields segment.head).length : Int) < grammar.minFields
  · rw [if_pos few, if_pos few, if_pos (malformed.mpr (.inl few))]
    rfl
  · rw [if_neg few, if_neg few]
    by_cases located : record.isLocated
    · have sound : ¬ segment.IsMalformed grammar := fun wrong => (malformed.mp wrong).elim few (· located)
      rw [if_pos located, if_neg sound]
      rfl
    · rw [if_neg located, if_pos (malformed.mpr (.inr located))]
      rfl

/-- A segment that is read gives its record, and is noted if it is malformed. -/
theorem read_ok (read : (segment.read grammar raw).result = .ok record) :
    segment.Gives raw record ∧
      (segment.read grammar raw).trace = if segment.IsMalformed grammar then [segment.complaint grammar] else [] := by
  obtain ⟨started, readHead, rfl⟩ := Traced.map_result_ok read
  obtain ⟨row, rowRead, later⟩ := Traced.andThen_result_ok readHead
  obtain ⟨column, columnRead, _⟩ := Traced.andThen_result_ok later
  rw [Traced.ofExcept_result] at rowRead columnRead
  have whole := readRecord_eq rowRead columnRead grammar raw segment.head
  obtain rfl := Except.ok.inj ((congrArg Traced.result whole).symm.trans readHead)
  refine ⟨⟨rfl, rowRead, columnRead, rfl, rfl⟩, ?_⟩
  exact (congrArg Traced.trace whole).trans (defect_eq_complaint rowRead columnRead)

/-- Of segments that are all read, the malformed ones are noted in turn. -/
theorem noted_eq {segments : List Segment} {found : List Record}
    (given : List.Forall₂ (fun segment record => (segment.read grammar raw).result = .ok record) segments found) :
    (segments.flatMap fun segment => (segment.read grammar raw).trace) =
      (segments.filter fun segment => segment.IsMalformed grammar).map (complaint grammar) := by
  induction given with
  | nil => rfl
  | @cons segment record segments found read given ih =>
    rw [List.flatMap_cons, (read_ok read).2, ih]
    by_cases malformed : segment.IsMalformed grammar
    · rw [if_pos malformed, List.filter_cons_of_pos (by simpa using malformed)]
      rfl
    · rw [if_neg malformed, List.filter_cons_of_neg (by simpa using malformed)]
      rfl

end Segment

/-- Every line is accounted for once. The lines can be divided into segments in one way only; each segment gives
one record, in order, and what is noted is the lines before the first segment and the segments that are
malformed. -/
theorem extract_accounts {grammar : Grammar} {output : Text} {found : List Record}
    (read : (extract grammar output).result = .ok found) :
    ∃ division : Segmentation, division.Divides grammar (Text.remarks output) ∧
      (∀ other : Segmentation, other.Divides grammar (Text.remarks output) → other = division) ∧
      List.Forall₂ (fun segment record => segment.Gives output record) division.segments found ∧
      (extract grammar output).trace = division.leading.map Anomaly.orphan ++
        (division.segments.filter fun segment => segment.IsMalformed grammar).map (Segment.complaint grammar) := by
  rw [extract_eq_read] at read ⊢
  obtain ⟨given, trace⟩ := Traced.collect_ok read
  refine ⟨Segmentation.ofLines grammar (Text.remarks output), Segmentation.divides_ofLines _ _,
    fun other divides => divides.eq_ofLines, given.imp fun segment record read => (Segment.read_ok read).1, ?_⟩
  rw [← Segment.noted_eq given, ← trace]
  rfl

/-- A line that continues nothing, a record that goes on behind a blank line, and one without a number. -/
theorem extract_accounts_garbled :
    let output := "* s\nwarning: a.v:1:2: x\n\n * y\nw:b.v:-:2:z".toList
    let found : List Record := [⟨"a.v".toList, .known 1, .known 2, "x\n * y".toList, output⟩,
      ⟨"b.v".toList, .unknown, .known 2, ['z'], output⟩]
    let division : Segmentation := ⟨["* s".toList],
      [⟨"warning: a.v:1:2: x".toList, ["* y".toList]⟩, ⟨"w:b.v:-:2:z".toList, []⟩]⟩
    (extract .standard output).result = .ok found ∧ division.Divides .standard (Text.remarks output) ∧
      List.Forall₂ (fun segment record => segment.Gives output record) division.segments found ∧
      (extract .standard output).trace =
        [.orphan "* s".toList, .malformed "w:b.v:-:2:z".toList Anomaly.notNumeric] := by
  intro output found division
  have read : (extract .standard output).result = .ok found := by decide +kernel
  have divided : Segmentation.ofLines .standard (Text.remarks output) = division := by decide +kernel
  obtain ⟨other, divides, _, given, trace⟩ := extract_accounts read
  obtain rfl : other = division := divides.eq_ofLines.trans divided
  refine ⟨read, divides, given, ?_⟩
  rw [trace]
  decide +kernel

end WarningList

end VDiagnostics
