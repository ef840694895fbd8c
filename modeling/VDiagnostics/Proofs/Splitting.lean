import VDiagnostics.Text.Basic
import Mathlib.Data.List.Basic
import Mathlib.Data.List.Induction

/-! Cutting a text at a separator and joining the pieces undo each other. Lines and fields are both
such pieces, so what is shown here for any separator serves for either. -/

namespace VDiagnostics

namespace Text

theorem split_eq_splitOn (separator : Char) (text : Text) : split separator text = text.splitOn separator := by
  induction text with
  | nil => simp [split, List.splitOn_nil]
  | cons c rest ih =>
    rw [split, List.splitOn_cons_eq_if_modifyHead, ← ih]
    by_cases same : c = separator
    · simp [same]
    · obtain ⟨piece, pieces, pieced⟩ := List.exists_cons_of_ne_nil (split_ne_nil separator rest)
      simp [same, pieced]

theorem split_whole {separator : Char} {text : Text} (absent : separator ∉ text) :
    split separator text = [text] := by
  rw [split_eq_splitOn, List.splitOn_eq_singleton absent]

theorem split_append (separator : Char) (front back : Text) :
    split separator (front ++ separator :: back) = split separator front ++ split separator back := by
  simp only [split_eq_splitOn]
  exact List.splitOn_append_cons_self front back

theorem split_append_cons {separator : Char} {front : Text} (absent : separator ∉ front) (rest : Text) :
    split separator (front ++ separator :: rest) = front :: split separator rest := by
  rw [split_append, split_whole absent, List.singleton_append]

theorem split_cons_ne {separator c : Char} (other : c ≠ separator) (text : Text) :
    ∃ first rest, split separator text = first :: rest ∧ split separator (c :: text) = (c :: first) :: rest := by
  obtain ⟨first, rest, pieced⟩ := List.exists_cons_of_ne_nil (split_ne_nil separator text)
  exact ⟨first, rest, pieced, by simp [split, other, pieced]⟩

theorem split_cons_self (separator : Char) (text : Text) :
    split separator (separator :: text) = [] :: split separator text := by
  simp [split]

/-- A separator at the end leaves an empty piece there, and any other character belongs to the last
piece. -/
theorem split_concat (separator c : Char) (text : Text) :
    ∃ front last, split separator text = front ++ [last] ∧
      split separator (text ++ [c]) = front ++ if c = separator then [last, []] else [last ++ [c]] := by
  induction text with
  | nil => by_cases same : c = separator <;> exact ⟨[], [], by simp [split, same]⟩
  | cons d rest ih =>
    obtain ⟨front, last, before, behind⟩ := ih
    by_cases same : d = separator
    · subst same
      exact ⟨[] :: front, last, by simp [split, before], by simp [split, behind]⟩
    · cases front with
      | nil =>
        refine ⟨[], d :: last, by simp [split, same, before], ?_⟩
        by_cases hit : c = separator
        · subst hit
          simp [split, same, behind]
        · simp [split, same, behind, hit]
      | cons piece pieces =>
        refine ⟨(d :: piece) :: pieces, last, by simp [split, same, before], ?_⟩
        simp [split, same, behind]

/-- What has no separator in it belongs to the last piece. -/
theorem split_append_whole {separator : Char} {back : Text} (absent : separator ∉ back) (text : Text) :
    ∃ front last, split separator text = front ++ [last] ∧
      split separator (text ++ back) = front ++ [last ++ back] := by
  induction back using List.reverseRecOn with
  | nil =>
    obtain ⟨front, last, before, _⟩ := split_concat separator separator text
    exact ⟨front, last, before, by simpa using before⟩
  | append_singleton back c ih =>
    obtain ⟨others, other⟩ : separator ∉ back ∧ separator ≠ c := by simpa using absent
    obtain ⟨front, last, before, extended⟩ := ih others
    obtain ⟨start, ending, same, behind⟩ := split_concat separator c (text ++ back)
    obtain ⟨rfl, whole⟩ := List.append_inj' (extended.symm.trans same) rfl
    obtain rfl : last ++ back = ending := by simpa using whole
    refine ⟨front, last, before, ?_⟩
    rw [← List.append_assoc, behind, if_neg (Ne.symm other), List.append_assoc]

theorem not_mem_of_mem_split {separator : Char} {text piece : Text} (member : piece ∈ split separator text) :
    separator ∉ piece := by
  induction text generalizing piece with
  | nil => simp_all [split]
  | cons c rest ih =>
    by_cases same : c = separator
    · subst same
      rw [split_cons_self, List.mem_cons] at member
      rcases member with rfl | member
      · simp
      · exact ih member
    · obtain ⟨first, others, pieced, equal⟩ := split_cons_ne same rest
      rw [equal, List.mem_cons] at member
      rcases member with rfl | member
      · simpa [Ne.symm same] using ih (pieced ▸ List.mem_cons_self)
      · exact ih (pieced ▸ List.mem_cons_of_mem _ member)

theorem length_split (separator : Char) (text : Text) :
    (split separator text).length = text.count separator + 1 := by
  induction text with
  | nil => simp [split]
  | cons c rest ih =>
    by_cases same : c = separator
    · subst same
      simp [split_cons_self, ih]
    · obtain ⟨first, others, pieced, equal⟩ := split_cons_ne same rest
      rw [pieced] at ih
      simpa [equal, same] using ih

theorem flatten_split (separator : Char) (text : Text) :
    (split separator text).flatten = text.filter (· ≠ separator) := by
  induction text with
  | nil => simp [split]
  | cons c rest ih =>
    by_cases same : c = separator
    · subst same
      simpa [split_cons_self] using ih
    · obtain ⟨first, others, pieced, equal⟩ := split_cons_ne same rest
      rw [pieced] at ih
      simpa [equal, same] using ih

theorem lines_unlines {written : List Text} (nonempty : written ≠ []) (whole : ∀ line ∈ written, '\n' ∉ line) :
    lines (unlines written) = written := by
  rw [lines, split_eq_splitOn]
  exact List.splitOn_intercalate '\n' whole nonempty

theorem unlines_lines (text : Text) : unlines (lines text) = text := by
  rw [lines, split_eq_splitOn]
  exact List.intercalate_splitOn '\n'

theorem unlines_cons (first : Text) (rest : List Text) :
    ∃ following, unlines (first :: rest) = first ++ following := by
  cases rest with
  | nil => exact ⟨[], by simp [unlines]⟩
  | cons second more => exact ⟨'\n' :: unlines (second :: more), by simp [unlines, List.intercalate_cons_cons]⟩

end Text

end VDiagnostics
