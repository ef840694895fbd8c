import VDiagnostics.Proofs.WarningLines

/-! Warning output in segments: a line that starts a record, and the lines that continue it. Lines can be
divided in one way only, and to read them one by one is to read segment after segment. -/

namespace VDiagnostics

namespace Traced

variable {ε α β γ : Type}

/-- Reads a list item by item, up to the first fault. -/
def collect (read : α → Traced ε β) : List α → Traced ε (List β)
  | [] => answer []
  | item :: rest => (read item).andThen fun value => (collect read rest).map (value :: ·)

theorem collect_append (read : α → Traced ε β) (front back : List α) :
    collect read (front ++ back) =
      (collect read front).andThen fun values => (collect read back).map (values ++ ·) := by
  induction front with
  | nil =>
    rw [List.nil_append, collect, answer_andThen]
    obtain ⟨trace, result⟩ := collect read back
    cases result <;> rfl
  | cons item rest ih =>
    rw [List.cons_append, collect, ih, collect, andThen_assoc]
    congr 1
    funext value
    rw [map_andThen, andThen_map]
    simp only [map_map, List.cons_append]

theorem collect_map {read : α → Traced ε β} {other : α → Traced ε γ} {view : β → γ}
    (viewed : ∀ item, (read item).map view = other item) (items : List α) :
    (collect read items).map (List.map view) = collect other items := by
  induction items with
  | nil => rfl
  | cons item rest ih =>
    rw [collect, map_andThen, collect, ← viewed, andThen_map]
    congr 1
    funext value
    rw [map_map, ← ih, map_map]
    rfl

end Traced

namespace WarningList

open Line (Grammar)

/-- A line that starts a record, and the lines behind it that continue it. -/
structure Segment where
  head : Text
  tail : List Text
  deriving DecidableEq

def Segment.lines (segment : Segment) : List Text :=
  segment.head :: segment.tail

/-- Lines by what they belong to. The leading ones continue nothing. -/
structure Segmentation where
  leading : List Text
  segments : List Segment
  deriving DecidableEq

namespace Segmentation

def ofLines (grammar : Grammar) : List Text → Segmentation
  | [] => ⟨[], []⟩
  | line :: rest =>
    let behind := ofLines grammar rest
    if grammar.Continues line then ⟨line :: behind.leading, behind.segments⟩
    else ⟨[], ⟨line, behind.leading⟩ :: behind.segments⟩

/-- No line is lost or moved, and a new segment begins where a line continues nothing and nowhere else. -/
structure Divides (division : Segmentation) (grammar : Grammar) (lines : List Text) : Prop where
  whole : lines = division.leading ++ division.segments.flatMap Segment.lines
  leading : ∀ line ∈ division.leading, grammar.Continues line
  heads : ∀ segment ∈ division.segments, ¬ grammar.Continues segment.head
  tails : ∀ segment ∈ division.segments, ∀ line ∈ segment.tail, grammar.Continues line

variable {grammar : Grammar} {line : Text}

theorem ofLines_continued (continues : grammar.Continues line) (rest : List Text) :
    ofLines grammar (line :: rest) = ⟨line :: (ofLines grammar rest).leading, (ofLines grammar rest).segments⟩ :=
  if_pos continues

theorem ofLines_started (starts : ¬ grammar.Continues line) (rest : List Text) :
    ofLines grammar (line :: rest) = ⟨[], ⟨line, (ofLines grammar rest).leading⟩ :: (ofLines grammar rest).segments⟩ :=
  if_neg starts

theorem divides_ofLines (grammar : Grammar) (lines : List Text) : (ofLines grammar lines).Divides grammar lines := by
  induction lines with
  | nil => exact ⟨rfl, by simp [ofLines], by simp [ofLines], by simp [ofLines]⟩
  | cons line rest ih =>
    by_cases continues : grammar.Continues line
    · rw [ofLines_continued continues]
      refine ⟨?_, List.forall_mem_cons.mpr ⟨continues, ih.leading⟩, ih.heads, ih.tails⟩
      exact congrArg (line :: ·) ih.whole
    · rw [ofLines_started continues]
      refine ⟨?_, by simp, List.forall_mem_cons.mpr ⟨continues, ih.heads⟩,
        List.forall_mem_cons.mpr ⟨ih.leading, ih.tails⟩⟩
      exact congrArg (line :: ·) ih.whole

/-- What the first line is decides where it belongs, and so on for the lines behind it. -/
theorem Divides.eq_ofLines {division : Segmentation} {lines : List Text} (divides : division.Divides grammar lines) :
    division = ofLines grammar lines := by
  induction lines generalizing division with
  | nil =>
    obtain ⟨leading, segments⟩ := division
    obtain ⟨rfl, joined⟩ := List.append_eq_nil_iff.mp divides.whole.symm
    cases segments with
    | nil => rfl
    | cons segment rest => cases joined
  | cons line rest ih =>
    obtain ⟨leading, segments⟩ := division
    cases leading with
    | cons first others =>
      obtain ⟨rfl, whole⟩ := List.cons.inj divides.whole
      obtain ⟨continues, leading⟩ := List.forall_mem_cons.mp divides.leading
      have behind : (⟨others, segments⟩ : Segmentation).Divides grammar rest :=
        ⟨whole, leading, divides.heads, divides.tails⟩
      rw [ofLines_continued continues, ← ih behind]
    | nil =>
      cases segments with
      | nil => cases divides.whole
      | cons segment more =>
        obtain ⟨head, tail⟩ := segment
        obtain ⟨rfl, whole⟩ := List.cons.inj divides.whole
        obtain ⟨starts, heads⟩ := List.forall_mem_cons.mp divides.heads
        obtain ⟨continued, tails⟩ := List.forall_mem_cons.mp divides.tails
        have behind : (⟨tail, more⟩ : Segmentation).Divides grammar rest := ⟨whole, continued, heads, tails⟩
        rw [ofLines_started starts, ← ih behind]

end Segmentation

/-- The record of a segment, with what its first line gives rise to note. -/
def Segment.read (grammar : Grammar) (raw : Text) (segment : Segment) : Traced Anomaly Record :=
  (readRecord grammar raw segment.head (Line.fields segment.head)).map fun record =>
    Pending.finish ⟨record, segment.tail⟩

/-- The lines that continue nothing are noted, and the segments are read. -/
def Segmentation.read (grammar : Grammar) (raw : Text) (division : Segmentation) : Traced Anomaly (List Record) :=
  let found := Traced.collect (Segment.read grammar raw) division.segments
  ⟨division.leading.map Anomaly.orphan ++ found.trace, found.result⟩

/-- The records of warnings whose lines all came, the newest of them first in the list. -/
def finished (pending : List Pending) : List Record :=
  pending.reverse.map Pending.finish

variable {grammar : Grammar} {raw : Text}

/-- Behind a record the lines up to the next one join it, and no line touches the records before. -/
private theorem fold_behind {lines : List Text} (remarks : ∀ line ∈ lines, line.IsRemark) (newest : Pending)
    (older : List Pending) :
    (Traced.fold (takeLine grammar raw) (newest :: older) lines).map finished =
      (Traced.collect (Segment.read grammar raw) (Segmentation.ofLines grammar lines).segments).map fun found =>
        finished older ++ Pending.finish { newest with
          continuations := newest.continuations ++ (Segmentation.ofLines grammar lines).leading } :: found := by
  induction lines generalizing newest older with
  | nil => simp [Traced.fold, Traced.collect, Segmentation.ofLines, finished]
  | cons line rest ih =>
    obtain ⟨remark, others⟩ := List.forall_mem_cons.mp remarks
    by_cases continues : grammar.Continues line
    · rw [Traced.fold, takeLine_continued remark continues, Traced.answer_andThen, ih others,
        Segmentation.ofLines_continued continues]
      simp
    · rw [Traced.fold, takeLine_started remark continues, Traced.andThen_map, Traced.map_andThen,
        Segmentation.ofLines_started continues, Traced.collect, Segment.read, Traced.andThen_map, Traced.map_andThen]
      congr 1
      funext record
      rw [ih others, Traced.map_map]
      simp [finished]

/-- Line after line is segment after segment. -/
theorem fold_eq_read {lines : List Text} (remarks : ∀ line ∈ lines, line.IsRemark) :
    (Traced.fold (takeLine grammar raw) [] lines).map finished =
      (Segmentation.ofLines grammar lines).read grammar raw := by
  induction lines with
  | nil => rfl
  | cons line rest ih =>
    obtain ⟨remark, others⟩ := List.forall_mem_cons.mp remarks
    by_cases continues : grammar.Continues line
    · rw [Traced.fold, takeLine_stray remark continues, Segmentation.ofLines_continued continues]
      exact congrArg (fun behind => Traced.mk (.orphan line :: behind.trace) behind.result) (ih others)
    · rw [Traced.fold, takeLine_started remark continues, Traced.andThen_map, Traced.map_andThen,
        Segmentation.ofLines_started continues]
      have behind : ∀ record, (Traced.fold (takeLine grammar raw) [⟨record, []⟩] rest).map finished =
          (Traced.collect (Segment.read grammar raw) (Segmentation.ofLines grammar rest).segments).map fun found =>
            Pending.finish ⟨record, (Segmentation.ofLines grammar rest).leading⟩ :: found := by
        intro record
        simpa [finished] using fold_behind others ⟨record, []⟩ []
      simp only [behind, Segmentation.read, Traced.collect, Segment.read, Traced.andThen_map, List.map_nil,
        List.nil_append]

/-- To read warnings is to divide what is said into segments and to read each of them. -/
theorem extract_eq_read (grammar : Grammar) (output : Text) :
    extract grammar output = (Segmentation.ofLines grammar (Text.remarks output)).read grammar output := by
  rw [extract_eq_fold_remarks]
  exact fold_eq_read fun line member => Text.isRemark_of_mem member

end WarningList

end VDiagnostics
