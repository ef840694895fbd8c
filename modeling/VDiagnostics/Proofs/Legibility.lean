import VDiagnostics.Output.Extraction
import VDiagnostics.Proofs.ErrorLines
import VDiagnostics.Proofs.Formats

/-! Which outputs can be read. Extraction takes an output of any shape, and only a numeral beyond the
digit limit stops it: the first such numeral in the order of reading is the fault. -/

namespace VDiagnostics

namespace Coordinate

variable {α β : Type}

/-- The digits that a coordinate is read from, behind blanks and a sign. -/
def digits (text : Text) : Text :=
  (splitSign (Text.trimStart text)).2.takeWhile Text.isDecimalDigit

/-- A text without digits is legible too, as a coordinate that is unknown. -/
def IsLegible (text : Text) : Prop :=
  (digits text).length ≤ digitLimit

instance (text : Text) : Decidable (IsLegible text) :=
  inferInstanceAs (Decidable (_ ≤ _))

/-- How an operation ends that reads numerals one after the other. -/
inductive Reads (numerals : List Text) : Except Fault α → Prop where
  | answer (value : α) (legible : ∀ numeral ∈ numerals, IsLegible numeral) : Reads numerals (.ok value)
  | fault {front numeral back} (cut : numerals = front ++ numeral :: back)
      (legible : ∀ earlier ∈ front, IsLegible earlier) (long : ¬ IsLegible numeral) :
      Reads numerals (.error (.numeralTooLong (digits numeral).length))

theorem read_eq_digits (text : Text) :
    read text = if (digits text).isEmpty then .ok unknown
      else if digitLimit < (digits text).length then .error (.numeralTooLong (digits text).length)
      else .ok (known (if (splitSign (Text.trimStart text)).1 then -(Text.digitsValue (digits text) : Int)
        else Text.digitsValue (digits text))) := rfl

private theorem reads_read (text : Text) : Reads [text] (read text) := by
  rw [read_eq_digits]
  by_cases legible : IsLegible text
  · have within : ¬ digitLimit < (digits text).length := Nat.not_lt.mpr legible
    rw [if_neg within]
    split <;> exact .answer _ (by simpa using legible)
  · have long : digitLimit < (digits text).length := Nat.not_le.mp legible
    have present : (digits text).isEmpty = false := by
      rw [List.isEmpty_eq_false_iff]
      intro absent
      simp [absent] at long
    rw [present, if_neg (by decide), if_pos long]
    exact .fault (List.nil_append [text]).symm (by simp) legible

namespace Reads

variable {numerals later : List Text} {result : Except Fault α}

theorem isOk_iff (reads : Reads numerals result) :
    result.isOk ↔ ∀ numeral ∈ numerals, IsLegible numeral := by
  cases reads with
  | answer value legible => exact iff_of_true rfl legible
  | @fault front numeral back cut legible long =>
    refine iff_of_false (by simp [Except.isOk, Except.toBool]) fun all => ?_
    exact long (all numeral (by simp [cut]))

theorem behind {earlier : List Text} (legible : ∀ numeral ∈ earlier, IsLegible numeral)
    (reads : Reads later result) : Reads (earlier ++ later) result := by
  cases reads with
  | answer value rest => exact .answer value (List.forall_mem_append.mpr ⟨legible, rest⟩)
  | @fault front numeral back cut rest long =>
    have behind : earlier ++ later = (earlier ++ front) ++ numeral :: back := by simp [cut]
    exact .fault behind (List.forall_mem_append.mpr ⟨legible, rest⟩) long

theorem map (reads : Reads numerals result) (f : α → β) : Reads numerals (result.map f) := by
  cases reads with
  | answer value legible => exact .answer (f value) legible
  | fault cut legible long => exact .fault cut legible long

/-- The numerals of the next operation count only after an answer. -/
theorem andThen {ε : Type} {traced : Traced ε α} {next : α → Traced ε β} (reads : Reads numerals traced.result)
    (continued : ∀ value, Reads later (next value).result) :
    Reads (numerals ++ later) (traced.andThen next).result := by
  obtain ⟨trace, result⟩ := traced
  cases reads with
  | answer value legible => exact (continued value).behind legible
  | @fault front numeral back cut legible long =>
    have before : numerals ++ later = front ++ numeral :: (back ++ later) := by simp [cut]
    exact .fault before legible long

/-- Records of either layout read a line and a column, and have an answer once both are read. -/
theorem pair {ε : Type} (first second : Text) {next : Coordinate → Coordinate → Traced ε α}
    (answered : ∀ row column, ∃ value, (next row column).result = .ok value) :
    Reads [first, second] ((Traced.ofExcept (read first)).andThen fun row =>
      (Traced.ofExcept (read second)).andThen (next row)).result := by
  have row : Reads [first] (Traced.ofExcept (read first) : Traced ε Coordinate).result := reads_read first
  have column : Reads [second] (Traced.ofExcept (read second) : Traced ε Coordinate).result := reads_read second
  refine row.andThen fun line => ?_
  rw [← List.append_nil [second]]
  refine column.andThen fun character => ?_
  obtain ⟨value, known⟩ := answered line character
  rw [known]
  exact .answer value (by simp)

theorem fold {ε σ : Type} {step : σ → α → Traced ε σ} {read : α → List Text}
    (steps : ∀ state item, Reads (read item) (step state item).result) (state : σ) (items : List α) :
    Reads (items.flatMap read) (Traced.fold step state items).result := by
  induction items generalizing state with
  | nil => exact .answer state (by simp)
  | cons item rest ih =>
    rw [List.flatMap_cons, Traced.fold]
    exact (steps state item).andThen fun next => ih next

end Reads

end Coordinate

open Coordinate (Reads)

namespace WarningList

open Line (Grammar)

/-- The fields of a line that are read as numbers, if the line starts a record. -/
def numerals (grammar : Grammar) (line : Text) : List Text :=
  match grammar.classify (Text.trim line) with
  | .record fields => [Line.field fields 2, Line.field fields 3]
  | _ => []

private theorem numerals_record {grammar : Grammar} {line : Text} (speaks : Text.trim line ≠ [])
    (enough : grammar.minFields ≤ (Line.fields line).length) :
    numerals grammar line = [Line.field (Line.fields line) 2, Line.field (Line.fields line) 3] := by
  have said : (Text.trim line).isEmpty = false := by simpa using speaks
  have long : ¬ ((Line.fields (Text.trim line)).length : Int) < grammar.minFields := by
    rw [Line.length_fields_trim]
    omega
  simp [numerals, Grammar.classify, said, long, Line.field_trim]

private theorem reads_readRecord (grammar : Grammar) (raw line : Text) (fields : List Text) :
    Reads [Line.field fields 2, Line.field fields 3] (readRecord grammar raw line fields).result := by
  refine Reads.pair _ _ fun row column => ?_
  dsimp only
  split <;> exact ⟨_, rfl⟩

private theorem reads_takeLine (grammar : Grammar) (raw : Text) (pending : List Pending) (line : Text) :
    Reads (numerals grammar line) (takeLine grammar raw pending line).result := by
  unfold numerals takeLine
  cases grammar.classify (Text.trim line) with
  | blank => exact .answer _ (by simp)
  | continuation fields => cases pending <;> exact .answer _ (by simp)
  | record fields => exact (reads_readRecord grammar raw (Text.trim line) fields).map _

theorem reads_extract (grammar : Grammar) (output : Text) :
    Reads ((Text.lines output).flatMap (numerals grammar)) (extract grammar output).result := by
  rw [extract_eq_fold_lines]
  exact (Reads.fold (reads_takeLine grammar output) [] (Text.lines output)).map _

end WarningList

namespace ErrorReport

/-- The fields that are read as numbers: the two behind the file on the line with the location. -/
def numerals (output : Text) : List Text :=
  match Text.lineWith? locationMarker (Text.lines output) with
  | none => []
  | some line =>
    let fields := Line.fields line
    [Line.field fields (fileField fields + 1), Line.field fields (fileField fields + 2)]

private theorem reads_readLocation (raw line : Text) :
    Reads [Line.field (Line.fields line) (fileField (Line.fields line) + 1),
      Line.field (Line.fields line) (fileField (Line.fields line) + 2)] (readLocation raw line).result := by
  refine Reads.pair _ _ fun row column => ?_
  dsimp only
  split <;> exact ⟨_, rfl⟩

theorem reads_extract (output : Text) : Reads (numerals output) (extract output).result := by
  rw [extract_eq_readFrom]
  refine Reads.map ?_ _
  unfold numerals
  cases Text.lineWith? locationMarker (Text.lines output) with
  | none => exact .answer _ (by simp)
  | some line => exact reads_readLocation _ line

end ErrorReport

namespace Extraction

/-- The numerals of an output, in the order in which they are read. -/
def numerals (output : Text) : List Text :=
  match Format.ofOutput output with
  | .clean => []
  | .error => ErrorReport.numerals output
  | .warning => (Text.lines output).flatMap (WarningList.numerals .standard)

/-- No numeral of the output is too long to be read. -/
def IsLegible (output : Text) : Prop :=
  ∀ numeral ∈ numerals output, Coordinate.IsLegible numeral

instance (output : Text) : Decidable (IsLegible output) :=
  inferInstanceAs (Decidable (∀ numeral ∈ numerals output, Coordinate.IsLegible numeral))

private theorem reads_records (output : Text) : Reads (numerals output) (records output).result := by
  unfold numerals records
  cases Format.ofOutput output with
  | clean => exact .answer _ (by simp)
  | error => exact (ErrorReport.reads_extract output).map _
  | warning => exact (WarningList.reads_extract .standard output).map _

theorem records_isOk {output : Text} : (records output).result.isOk ↔ IsLegible output :=
  (reads_records output).isOk_iff

theorem numerals_warning {lines : List Text} (present : lines ≠ []) (whole : ∀ line ∈ lines, '\n' ∉ line)
    (format : Format.ofOutput (Text.unlines lines) = .warning) :
    numerals (Text.unlines lines) = lines.flatMap (WarningList.numerals .standard) := by
  simp only [numerals, format, Text.lines_unlines present whole]

end Extraction

section Ones

/-! A run of ones in the place of a line number is the simplest numeral of any length. -/

theorem Coordinate.digits_ones (count : Nat) : digits (List.replicate count '1') = List.replicate count '1' := by
  have digit : Text.isDecimalDigit '1' = true := by decide
  cases count with
  | zero => rfl
  | succ count =>
    have start : Text.trimStart (List.replicate (count + 1) '1') = List.replicate (count + 1) '1' := by
      simp [Text.trimStart, List.replicate_succ, show Text.isBlank '1' = false from rfl]
    have unsigned : splitSign (List.replicate (count + 1) '1') = (false, List.replicate (count + 1) '1') := rfl
    rw [digits, start, unsigned]
    simp [digit]

theorem Text.trim_ones (count : Nat) : trim (List.replicate count '1') = List.replicate count '1' := by
  have printed : isBlank '1' = false := rfl
  cases count with
  | zero => rfl
  | succ count => simp [trim, trimStart, trimEnd, printed]

namespace WarningList

def onesLine (count : Nat) : Text :=
  Format.warningStart ++ [':', 'b', '.', 'v', ':'] ++ List.replicate count '1' ++ [':', '3', ':', 'y']

private theorem fields_onesLine (count : Nat) :
    Line.fields (onesLine count) = [Format.warningStart, ['b', '.', 'v'], List.replicate count '1', ['3'], ['y']] := by
  have spelled : onesLine count = Format.warningStart ++ ':' :: (['b', '.', 'v'] ++ ':' ::
      (List.replicate count '1' ++ ':' :: (['3'] ++ ':' :: ['y']))) := by
    simp [onesLine]
  have colonless : ':' ∉ List.replicate count '1' := by simp
  rw [spelled, Line.fields, Text.split_append_cons (by decide), Text.split_append_cons (by decide),
    Text.split_append_cons colonless, Text.split_append_cons (by decide), Text.split_whole (by decide)]

theorem newline_not_mem_onesLine (count : Nat) : '\n' ∉ onesLine count := by
  simp [onesLine, Format.warningStart]

private theorem numerals_onesLine (count : Nat) :
    numerals .standard (onesLine count) = [List.replicate count '1', ['3']] := by
  have speaks : Text.trim (onesLine count) ≠ [] := by
    intro empty
    have blank := List.all_eq_true.mp (Text.trim_eq_nil_iff.mp empty) 'w' (by simp [onesLine, Format.warningStart])
    cases blank
  have enough : Line.Grammar.standard.minFields ≤ (Line.fields (onesLine count)).length := by
    simp [fields_onesLine, Line.Grammar.standard]
  rw [numerals_record speaks enough, fields_onesLine]
  simp only [Line.field, List.getD_cons_succ, List.getD_cons_zero, Text.trim_ones]
  rfl

end WarningList

theorem Extraction.not_isLegible_ones {lines : List Text} {count : Nat} (whole : ∀ line ∈ lines, '\n' ∉ line)
    (format : Format.ofOutput (Text.unlines lines) = .warning) (member : WarningList.onesLine count ∈ lines)
    (long : digitLimit < count) : ¬ IsLegible (Text.unlines lines) := by
  intro legible
  have present : List.replicate count '1' ∈ numerals (Text.unlines lines) := by
    rw [numerals_warning (List.ne_nil_of_mem member) whole format]
    refine List.mem_flatMap.mpr ⟨WarningList.onesLine count, member, ?_⟩
    rw [WarningList.numerals_onesLine]
    exact List.mem_cons_self
  have short := legible _ present
  rw [Coordinate.IsLegible, Coordinate.digits_ones, List.length_replicate] at short
  omega

end Ones

end VDiagnostics
