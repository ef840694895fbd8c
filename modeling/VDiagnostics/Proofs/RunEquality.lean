import VDiagnostics.Proofs.StorePolicy

/-! When two runs have found the same. An unknown coordinate that was read is always one and the same, so records agree
where they say the same. Placing a record takes sums, and each sum of an unknown coordinate is a new one, so diagnostics
agree only where every coordinate is known. -/

namespace VDiagnostics

/-- A number in memory. An unknown one has no value to be compared, so it counts which one it is: the one that reading
always gives, or one that a sum made. -/
inductive Number where
  | known (value : Int)
  | unread
  | made (serial : Nat)
  deriving DecidableEq

namespace Number

def ofCoordinate : Coordinate → Number
  | .known value => known value
  | .unknown => unread

/-- The sum of an unknown number is a new one, with the serial it is given. -/
def plus (serial : Nat) (distance : Int) : Number → Number
  | known value => known (value + distance)
  | _ => made serial

private theorem ofCoordinate_inj {first second : Coordinate} :
    ofCoordinate first = ofCoordinate second ↔ first = second := by
  cases first <;> cases second <;> simp [ofCoordinate]

/-- Two sums that were made apart are one number only as known ones. -/
theorem plus_eq_iff {serial other : Nat} (apart : serial ≠ other) (distance : Int) (first second : Coordinate) :
    (ofCoordinate first).plus serial distance = (ofCoordinate second).plus other distance ↔
      (first.shift distance).agrees (second.shift distance) := by
  cases first <;> cases second <;> simp [ofCoordinate, plus, Coordinate.shift, Coordinate.agrees, apart]

end Number

/-- A diagnostic in memory, with the numbers that it was made of. -/
structure Finding where
  file : Text
  start : Number × Number
  stop : Number × Number
  severity : Severity
  message : Text
  deriving DecidableEq

namespace Finding

/-- Both ends share the line, which one sum makes; the column of the start is the one that was read. -/
def ofRecord (cwd : Text) (severity : Severity) (serial : Nat) (record : Record) : Finding :=
  let line := (Number.ofCoordinate record.line).plus serial (-1)
  let column := Number.ofCoordinate record.column
  { file := Diagnostic.resolve cwd record.file
    start := (line, column)
    stop := (line, column.plus (serial + 1) 1)
    severity := severity
    message := record.message }

/-- Each record takes two serials. -/
def ofRecords (cwd : Text) (severity : Severity) : Nat → List Record → List Finding
  | _, [] => []
  | serial, record :: rest => ofRecord cwd severity serial record :: ofRecords cwd severity (serial + 2) rest

def ofRun (cwd : Text) (serial : Nat) (found : Format × List Record) : Format × List Finding :=
  (found.1, match found.1.severity? with
    | none => []
    | some severity => ofRecords cwd severity serial found.2)

variable {cwd : Text} {first second : Nat}

/-- Findings of two runs are one exactly where the diagnostics agree. -/
theorem ofRecord_eq_iff (apart : first ≠ second) (severity other : Severity) (record another : Record) :
    ofRecord cwd severity first record = ofRecord cwd other second another ↔
      (Diagnostic.ofRecord cwd severity record).agrees (Diagnostic.ofRecord cwd other another) := by
  have later : first + 1 ≠ second + 1 := fun same => apart (Nat.succ.inj same)
  simp only [ofRecord, Finding.mk.injEq, Prod.mk.injEq, Number.plus_eq_iff apart, Number.plus_eq_iff later,
    Number.ofCoordinate_inj, Diagnostic.agrees, Diagnostic.ofRecord, Bool.and_eq_true, beq_iff_eq, and_assoc]

private theorem ofRecords_eq_iff (apart : first ≠ second) (severity : Severity) (found others : List Record) :
    ofRecords cwd severity first found = ofRecords cwd severity second others ↔
      Extraction.allAgree (found.map (Diagnostic.ofRecord cwd severity))
        (others.map (Diagnostic.ofRecord cwd severity)) := by
  induction found generalizing first second others with
  | nil => cases others <;> simp [ofRecords, Extraction.allAgree]
  | cons record rest ih =>
    cases others with
    | nil => simp [ofRecords, Extraction.allAgree]
    | cons another others =>
      have later : first + 2 ≠ second + 2 := fun same => apart (Nat.add_right_cancel same)
      rw [ofRecords, ofRecords, List.cons.injEq, ofRecord_eq_iff apart, ih later, List.map_cons, List.map_cons,
        Extraction.allAgree, Bool.and_eq_true]

/-- To compare runs number by number in memory is to compare their diagnostics. -/
theorem ofRun_eq_iff (apart : first ≠ second) (format other : Format) (found others : List Record) :
    ofRun cwd first (format, found) = ofRun cwd second (other, others) ↔
      Extraction.sameDiagnostics (format, Extraction.place cwd format found)
        (other, Extraction.place cwd other others) := by
  rw [ofRun, ofRun, Prod.mk.injEq, Extraction.sameDiagnostics, Bool.and_eq_true, beq_iff_eq]
  apply and_congr_right
  rintro rfl
  cases given : format.severity? with
  | none => simp [Extraction.place, given, Extraction.allAgree]
  | some severity => simp only [Extraction.place, given, ofRecords_eq_iff apart]

end Finding

namespace Extraction

variable {cwd : Text} {found others : List Record}

/-- Of two records that say the same, the diagnostics agree where line and column are known. -/
theorem agrees_ofRecord_iff {record other : Record} (same : record.content = other.content) (cwd : Text)
    (severity : Severity) :
    (Diagnostic.ofRecord cwd severity record).agrees (Diagnostic.ofRecord cwd severity other) ↔ record.isLocated := by
  obtain ⟨file, line, column, message, raw⟩ := record
  obtain ⟨_, _, _, _, _⟩ := other
  simp only [Record.content, Record.mk.injEq, and_true] at same
  obtain ⟨rfl, rfl, rfl, rfl⟩ := same
  cases line <;> cases column <;>
    simp [Diagnostic.agrees, Diagnostic.ofRecord, Coordinate.shift, Coordinate.agrees, Record.isLocated,
      Coordinate.isKnown]

private theorem allAgree_iff_isLocated (same : found.map Record.content = others.map Record.content) (cwd : Text)
    (severity : Severity) :
    allAgree (found.map (Diagnostic.ofRecord cwd severity)) (others.map (Diagnostic.ofRecord cwd severity)) ↔
      ∀ record ∈ found, record.isLocated := by
  induction found generalizing others with
  | nil =>
    obtain rfl : others = [] := by simpa using same.symm
    simp [allAgree]
  | cons record rest ih =>
    cases others with
    | nil => cases same
    | cons other others =>
      obtain ⟨head, tail⟩ := List.cons.inj same
      rw [List.map_cons, List.map_cons, allAgree, Bool.and_eq_true, agrees_ofRecord_iff head, ih tail,
        List.forall_mem_cons]

private theorem sameRecords_iff {format other : Format} :
    sameRecords (format, found) (other, others) ↔
      format = other ∧ found.map Record.content = others.map Record.content := by
  rw [sameRecords, Bool.and_eq_true, beq_iff_eq, beq_iff_eq]

private theorem sameDiagnostics_place_iff {output : Text} {format : Format}
    (read : (records output).result = .ok (format, found))
    (same : found.map Record.content = others.map Record.content) (cwd : Text) :
    sameDiagnostics (format, place cwd format found) (format, place cwd format others) ↔
      ∀ record ∈ found, record.isLocated := by
  rw [sameDiagnostics, beq_self_eq_true, Bool.true_and]
  cases given : format.severity? with
  | some severity =>
    simp only [place, given]
    exact allAgree_iff_isLocated same cwd severity
  | none =>
    obtain ⟨_, rfl⟩ | ⟨rfl, _⟩ | rfl := StorePolicy.records_shape read
    · simp [place, given, allAgree]
    · cases given
    · cases given

/-- How two runs compare that have read the same records and placed them. -/
structure Comparison (cwd : Text) (found others : Format × List Record) (first second : Format × List Diagnostic) :
    Prop where
  again : sameRecords found found
  placed : sameDiagnostics first second ↔ ∀ record ∈ found.2, record.isLocated
  /-- One output is placed twice. -/
  placedAgain : sameDiagnostics first first ↔ ∀ record ∈ found.2, record.isLocated
  /-- The runs share no number, and are compared number by number. -/
  inMemory : ∀ serial later, serial ≠ later →
    (Finding.ofRun cwd serial found = Finding.ofRun cwd later others ↔ sameDiagnostics first second)

/-- Where two outputs give the same records, both give diagnostics, and these agree if every record has a line and a
column. -/
theorem compare_same {cwd output other : Text} {found others : Format × List Record}
    (read : (records output).result = .ok found) (otherRead : (records other).result = .ok others)
    (same : sameRecords found others) :
    ∃ first second, (diagnostics cwd output).result = .ok first ∧ (diagnostics cwd other).result = .ok second ∧
      Comparison cwd found others first second := by
  obtain ⟨format, found⟩ := found
  obtain ⟨_, others⟩ := others
  obtain ⟨rfl, contents⟩ := sameRecords_iff.mp same
  refine ⟨_, _, StorePolicy.diagnostics_of_records read, StorePolicy.diagnostics_of_records otherRead, ?_, ?_, ?_, ?_⟩
  · exact sameRecords_iff.mpr ⟨rfl, rfl⟩
  · exact sameDiagnostics_place_iff read contents cwd
  · exact sameDiagnostics_place_iff read rfl cwd
  · intro serial later apart
    exact Finding.ofRun_eq_iff apart format format found others

/-- Two warnings in two spellings, one with a column that is no number. The records are the same, and the diagnostics
are not. -/
theorem compare_same_unlocated :
    let output := "warning: a.v:1:2: x\nwarning: b.v:3:?: y".toList
    let other := "warning: a.v:01:+2z: x\r\n\nwarning: b.v : 3 :: y\n".toList
    ∃ found others first second, (records output).result = .ok found ∧ (records other).result = .ok others ∧
      sameRecords found others ∧ (diagnostics "/w".toList output).result = .ok first ∧
      (diagnostics "/w".toList other).result = .ok second ∧ sameDiagnostics first second = false := by
  intro output other
  let found (raw : Text) : Format × List Record :=
    (.warning, [⟨"a.v".toList, .known 1, .known 2, "x".toList, raw⟩,
      ⟨"b.v".toList, .known 3, .unknown, "y".toList, raw⟩])
  have read : (records output).result = .ok (found output) := by decide +kernel
  have otherRead : (records other).result = .ok (found other) := by decide +kernel
  have same : sameRecords (found output) (found other) := by decide
  obtain ⟨first, second, placed, otherPlaced, comparison⟩ := @compare_same "/w".toList _ _ _ _ read otherRead same
  refine ⟨_, _, first, second, read, otherRead, same, placed, otherPlaced, ?_⟩
  rw [Bool.eq_false_iff, Ne, comparison.placed]
  decide

end Extraction

end VDiagnostics
