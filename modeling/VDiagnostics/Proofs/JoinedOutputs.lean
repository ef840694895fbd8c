import VDiagnostics.Proofs.LineAccounts
import Mathlib.Data.List.ModifyLast

/-! Two outputs of warnings as one. The second is read behind the first as it is read alone, but for the lines at
its start that continue nothing: these go to the last record of the first, if there is one. -/

namespace VDiagnostics

/-- A record with more lines behind its message. -/
def Record.elaborated (lines : List Text) (record : Record) : Record :=
  { record with message := record.message ++ lines.flatMap (WarningList.continuationStart ++ ·) }

namespace Traced

variable {ε α β : Type}

private theorem collect_last {read : α → Traced ε β} {item other : α} {f : β → β}
    (same : read other = (read item).map f) (front : List α) :
    collect read (front ++ [other]) = (collect read (front ++ [item])).map (List.modifyLast f) := by
  rw [collect_append, collect_append, map_andThen]
  congr 1
  funext values
  simp only [collect, same, andThen_map, map_andThen, map_answer, List.modifyLast_concat]

end Traced

namespace WarningList

open Line (Grammar)

private theorem modifyLast_content (lines : List Text) (records : List Record) :
    (records.modifyLast (Record.elaborated lines)).map Record.content =
      (records.map Record.content).modifyLast (Record.elaborated lines) := by
  cases records using List.reverseRecOn with
  | nil => rfl
  | append_singleton front last => simp [List.modifyLast_concat, Record.elaborated, Record.content]

namespace Segment

/-- More lines in a segment are more lines behind the message of its record. -/
theorem read_extended (grammar : Grammar) (raw : Text) (segment : Segment) (lines : List Text) :
    read grammar raw ⟨segment.head, segment.tail ++ lines⟩ =
      (segment.read grammar raw).map (Record.elaborated lines) := by
  rw [read, read, Traced.map_map]
  congr 1
  funext record
  simp [Pending.finish, Record.elaborated]

private theorem read_content (grammar : Grammar) (raw : Text) (segment : Segment) :
    (segment.read grammar raw).map Record.content = segment.read grammar [] := by
  rw [read, read, ← readRecord_content grammar raw, Traced.map_map, Traced.map_map]
  rfl

end Segment

namespace Segmentation

private theorem leading_ofLines (grammar : Grammar) (lines : List Text) :
    (ofLines grammar lines).leading = lines.takeWhile fun line => grammar.Continues line := by
  induction lines with
  | nil => rfl
  | cons line rest ih =>
    by_cases continues : grammar.Continues line
    · rw [ofLines_continued continues, List.takeWhile_cons_of_pos (by simpa using continues), ← ih]
    · rw [ofLines_started continues, List.takeWhile_cons_of_neg (by simpa using continues)]

variable {grammar : Grammar} {front : List Text}

/-- Without a segment in the first lines there is nothing that the next ones could continue. -/
theorem ofLines_append_unstarted (unstarted : (ofLines grammar front).segments = []) (back : List Text) :
    ofLines grammar (front ++ back) =
      ⟨(ofLines grammar front).leading ++ (ofLines grammar back).leading, (ofLines grammar back).segments⟩ := by
  have before := divides_ofLines grammar front
  have behind := divides_ofLines grammar back
  have stray : front = (ofLines grammar front).leading := by simpa [unstarted] using before.whole
  apply Eq.symm
  apply Divides.eq_ofLines
  refine ⟨?_, List.forall_mem_append.mpr ⟨before.leading, behind.leading⟩, behind.heads, behind.tails⟩
  rw [← stray, List.append_assoc, ← behind.whole]

/-- The lines behind a segment that continue it belong to it. -/
theorem ofLines_append_started {earlier : List Segment} {last : Segment}
    (started : (ofLines grammar front).segments = earlier ++ [last]) (back : List Text) :
    ofLines grammar (front ++ back) = ⟨(ofLines grammar front).leading,
      earlier ++ [⟨last.head, last.tail ++ (ofLines grammar back).leading⟩] ++ (ofLines grammar back).segments⟩ := by
  have before := divides_ofLines grammar front
  have behind := divides_ofLines grammar back
  obtain ⟨earlierHeads, lastHead⟩ := List.forall_mem_append.mp (started ▸ before.heads)
  obtain ⟨earlierTails, lastTail⟩ := List.forall_mem_append.mp (started ▸ before.tails)
  have continued : ∀ line ∈ last.tail ++ (ofLines grammar back).leading, grammar.Continues line :=
    List.forall_mem_append.mpr ⟨lastTail last List.mem_cons_self, behind.leading⟩
  apply Eq.symm
  apply Divides.eq_ofLines
  refine ⟨?_, before.leading, ?_, ?_⟩
  · have first := before.whole
    rw [started] at first
    conv_lhs => rw [first, behind.whole]
    simp [Segment.lines]
  · refine List.forall_mem_append.mpr ⟨List.forall_mem_append.mpr ⟨earlierHeads, ?_⟩, behind.heads⟩
    simpa using lastHead
  · refine List.forall_mem_append.mpr ⟨List.forall_mem_append.mpr ⟨earlierTails, ?_⟩, behind.tails⟩
    simpa using continued

end Segmentation

/-- What is recovered from an output, without where it was read. -/
theorem contents_eq_read (grammar : Grammar) (output : Text) :
    (extract grammar output).map (List.map Record.content) =
      (Segmentation.ofLines grammar (Text.remarks output)).read grammar [] := by
  have viewed := Traced.collect_map (Segment.read_content grammar output)
    (Segmentation.ofLines grammar (Text.remarks output)).segments
  rw [extract_eq_read, Segmentation.read, Segmentation.read, ← viewed]
  rfl

/-- An output that can be read, by its segments. -/
theorem contents_of_read {grammar : Grammar} {output : Text} {found : List Record}
    (read : (extract grammar output).result = .ok found) :
    let division := Segmentation.ofLines grammar (Text.remarks output)
    let recovered := Traced.collect (Segment.read grammar []) division.segments
    recovered.result = .ok (found.map Record.content) ∧
      (extract grammar output).trace = division.leading.map Anomaly.orphan ++ recovered.trace ∧
      division.segments.length = found.length := by
  intro division recovered
  have contents := contents_eq_read grammar output
  have result : recovered.result = .ok (found.map Record.content) := by
    have same := congrArg Traced.result contents
    rw [Traced.map_result, read] at same
    exact same.symm
  have length := (Traced.collect_ok result).1.length_eq
  rw [List.length_map] at length
  exact ⟨result, congrArg Traced.trace contents, length⟩

/-- Behind an output without records the next one is read as it is. -/
theorem contents_unstarted {grammar : Grammar} {front : Text}
    (unstarted : (Segmentation.ofLines grammar (Text.remarks front)).segments = []) (back : Text) :
    (extract grammar (front ++ '\n' :: back)).map (List.map Record.content) =
      ⟨(extract grammar front).trace ++ (extract grammar back).trace,
        ((extract grammar back).map (List.map Record.content)).result⟩ := by
  have before : (extract grammar front).trace =
      (Segmentation.ofLines grammar (Text.remarks front)).leading.map Anomaly.orphan := by
    rw [extract_eq_read, Segmentation.read, unstarted]
    exact List.append_nil _
  have behind : (extract grammar back).trace =
      ((Segmentation.ofLines grammar (Text.remarks back)).read grammar []).trace := by
    rw [← contents_eq_read]
    rfl
  rw [contents_eq_read, Text.remarks_append, Segmentation.ofLines_append_unstarted unstarted, before, behind,
    contents_eq_read, Segmentation.read, Segmentation.read, List.map_append, List.append_assoc]

/-- Behind records the last of them takes the lines that continue it, and then come those of the next output. -/
theorem contents_started {grammar : Grammar} {front : Text} {earlier : List Segment} {last : Segment}
    (started : (Segmentation.ofLines grammar (Text.remarks front)).segments = earlier ++ [last]) (back : Text) :
    let behind := Segmentation.ofLines grammar (Text.remarks back)
    (extract grammar (front ++ '\n' :: back)).map (List.map Record.content) =
      (((extract grammar front).map (List.map Record.content)).map
          (List.modifyLast (Record.elaborated behind.leading))).andThen fun values =>
        (Traced.collect (Segment.read grammar []) behind.segments).map (values ++ ·) := by
  intro behind
  rw [contents_eq_read, Text.remarks_append, Segmentation.ofLines_append_started started, Segmentation.read,
    Traced.collect_append, Traced.collect_last (Segment.read_extended grammar [] last behind.leading), ← started,
    contents_eq_read, Segmentation.read]
  obtain ⟨noted, result⟩ := Traced.collect (Segment.read grammar [])
    (Segmentation.ofLines grammar (Text.remarks front)).segments
  cases result with
  | error fault => rfl
  | ok values => exact congrArg₂ Traced.mk (List.append_assoc _ _ _).symm rfl

/-- Outputs of warnings are read one after the other. The lines at the start of the second that continue nothing go
behind the message of the last record of the first; without one they are noted, as they are in the second alone. -/
theorem extract_joined {grammar : Grammar} {front back : Text} {first second : List Record}
    (frontRead : (extract grammar front).result = .ok first) (backRead : (extract grammar back).result = .ok second) :
    let joined := extract grammar (front ++ '\n' :: back)
    let strays := (Text.remarks back).takeWhile fun line => grammar.Continues line
    ∃ found noted, joined.result = .ok found ∧
      found.map Record.content = (first.modifyLast (Record.elaborated strays) ++ second).map Record.content ∧
      (extract grammar back).trace = strays.map Anomaly.orphan ++ noted ∧
      joined.trace =
        (extract grammar front).trace ++ if first = [] then (extract grammar back).trace else noted := by
  intro joined strays
  obtain ⟨_, _, frontLength⟩ := contents_of_read frontRead
  obtain ⟨backResult, backTrace, _⟩ := contents_of_read backRead
  have leading : (Segmentation.ofLines grammar (Text.remarks back)).leading = strays :=
    Segmentation.leading_ofLines grammar (Text.remarks back)
  rw [leading] at backTrace
  suffices whole : joined.map (List.map Record.content) =
      ⟨(extract grammar front).trace ++ if first = [] then (extract grammar back).trace else
          (Traced.collect (Segment.read grammar []) (Segmentation.ofLines grammar (Text.remarks back)).segments).trace,
        .ok ((first.modifyLast (Record.elaborated strays) ++ second).map Record.content)⟩ by
    obtain ⟨found, read, same⟩ := Traced.map_result_ok (congrArg Traced.result whole)
    exact ⟨found, _, read, same, backTrace, congrArg Traced.trace whole⟩
  rcases List.eq_nil_or_concat' (Segmentation.ofLines grammar (Text.remarks front)).segments with
    unstarted | ⟨earlier, last, started⟩
  · obtain rfl : first = [] := by
      rw [unstarted, List.length_nil] at frontLength
      exact List.eq_nil_of_length_eq_zero frontLength.symm
    rw [contents_unstarted unstarted, Traced.map_result, backRead, if_pos rfl]
    rfl
  · have present : first ≠ [] := by
      rintro rfl
      simp [started] at frontLength
    have elaborated : (((extract grammar front).map (List.map Record.content)).map
        (List.modifyLast (Record.elaborated strays))).result =
          .ok ((first.modifyLast (Record.elaborated strays)).map Record.content) := by
      rw [Traced.map_result, Traced.map_result, frontRead, modifyLast_content]
      rfl
    rw [contents_started started, leading, Traced.andThen_of_ok elaborated, Traced.map_result, backResult,
      if_neg present, List.map_append]
    rfl

/-- The second output begins with a continuation and has another one behind its record. -/
theorem extract_joined_stray :
    let front := "* lost\nwarning: a.v:1:2: x\n".toList
    let back := " * more\n\nwarning: b.v:3:4: y\n* last".toList
    ∃ first second, (extract .standard front).result = .ok first ∧ (extract .standard back).result = .ok second ∧
      (extract .standard back).trace = [.orphan "* more".toList] ∧
      ∃ found, (extract .standard (front ++ '\n' :: back)).result = .ok found ∧
        found.map Record.content = [⟨"a.v".toList, .known 1, .known 2, "x\n * more".toList, []⟩,
          ⟨"b.v".toList, .known 3, .known 4, "y\n * last".toList, []⟩] ∧
        (extract .standard (front ++ '\n' :: back)).trace = [.orphan "* lost".toList] := by
  intro front back
  let first : List Record := [⟨"a.v".toList, .known 1, .known 2, ['x'], front⟩]
  let second : List Record := [⟨"b.v".toList, .known 3, .known 4, "y\n * last".toList, back⟩]
  have frontRead : (extract .standard front).result = .ok first := by decide +kernel
  have backRead : (extract .standard back).result = .ok second := by decide +kernel
  have noted : (extract .standard back).trace = [.orphan "* more".toList] := by decide +kernel
  obtain ⟨found, rest, read, same, split, trace⟩ := extract_joined frontRead backRead
  have strays : ((Text.remarks back).takeWhile fun line => Grammar.standard.Continues line) = ["* more".toList] := by
    decide +kernel
  obtain rfl : [] = rest := by
    rw [noted, strays] at split
    exact (List.cons.inj split).2
  refine ⟨first, second, frontRead, backRead, noted, found, read, ?_, ?_⟩
  · rw [same, strays]
    rfl
  · rw [trace]
    decide +kernel

end WarningList

end VDiagnostics
