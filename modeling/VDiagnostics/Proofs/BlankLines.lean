import VDiagnostics.Text.Blank
import VDiagnostics.Proofs.Splitting

/-! A text without its blank lines. Nothing is left to take out a second time, and what is left says which lines
the text had besides. A text of blanks alone leaves the empty text, whose one line is still blank. -/

namespace VDiagnostics

namespace Text

variable {text line : Text}

/-- The lines that say something, untouched and in their order. -/
def spoken (text : Text) : List Text :=
  (lines text).filter fun line => !isBlankLine line

private theorem mem_spoken : line ∈ spoken text ↔ line ∈ lines text ∧ isBlankLine line = false := by
  rw [spoken, List.mem_filter, Bool.not_eq_true']

private theorem spoken_eq_nil_iff : spoken text = [] ↔ ∀ line ∈ lines text, isBlankLine line := by
  simp [spoken]

/-- The line feeds of a text are blanks too, so it is blank where its lines are. -/
theorem isBlankLine_iff_lines : isBlankLine text ↔ ∀ line ∈ lines text, isBlankLine line := by
  have pieces (c : Char) : (∃ line ∈ lines text, c ∈ line) ↔ c ∈ text ∧ c ≠ '\n' := by
    rw [← List.mem_flatten, lines, flatten_split, List.mem_filter, decide_eq_true_iff]
  simp only [isBlankLine, List.all_eq_true]
  constructor
  · intro blank line member c here
    exact blank c ((pieces c).mp ⟨line, member, here⟩).1
  · intro blank c inside
    by_cases newline : c = '\n'
    · subst newline
      decide
    · obtain ⟨line, member, here⟩ := (pieces c).mpr ⟨inside, newline⟩
      exact blank line member c here

private theorem withoutBlankLines_silent (silent : spoken text = []) : withoutBlankLines text = [] := by
  rw [withoutBlankLines, ← spoken, silent]
  rfl

/-- Lines that were joined are cut apart again, as long as there are any: no lines at all are joined to one. -/
theorem lines_withoutBlankLines (speaks : spoken text ≠ []) : lines (withoutBlankLines text) = spoken text :=
  lines_unlines speaks fun _ member => not_mem_of_mem_split (mem_spoken.mp member).1

example : lines (withoutBlankLines "a \n\n   \n\r\nb\n".toList) = ["a ".toList, ['b']] := by decide

@[simp] theorem spoken_withoutBlankLines (text : Text) : spoken (withoutBlankLines text) = spoken text := by
  by_cases silent : spoken text = []
  · rw [withoutBlankLines_silent silent, silent]
    rfl
  · rw [spoken, lines_withoutBlankLines silent, spoken, List.filter_filter]
    simp only [Bool.and_self]

/-- A text without a blank line, or without anything. -/
def IsDense (text : Text) : Prop :=
  text = [] ∨ ∀ line ∈ lines text, isBlankLine line = false

theorem isDense_withoutBlankLines (text : Text) : (withoutBlankLines text).IsDense := by
  by_cases silent : spoken text = []
  · exact .inl (withoutBlankLines_silent silent)
  · refine .inr fun line member => ?_
    rw [lines_withoutBlankLines silent] at member
    exact (mem_spoken.mp member).2

theorem IsDense.spoken_eq_lines (dense : text.IsDense) (present : text ≠ []) : spoken text = lines text := by
  apply List.filter_eq_self.mpr
  simpa using dense.resolve_left present

private theorem withoutBlankLines_of_isDense (dense : text.IsDense) : withoutBlankLines text = text := by
  by_cases empty : text = []
  · subst empty
    rfl
  · rw [withoutBlankLines, ← spoken, dense.spoken_eq_lines empty, unlines_lines]

/-- The dense texts are those in which nothing is taken out. -/
theorem withoutBlankLines_eq_self_iff : withoutBlankLines text = text ↔ text.IsDense :=
  ⟨fun same => same ▸ isDense_withoutBlankLines text, withoutBlankLines_of_isDense⟩

/-- What is left keeps the lines that say something and nothing else of a text. -/
theorem withoutBlankLines_eq_iff {first second : Text} :
    withoutBlankLines first = withoutBlankLines second ↔ spoken first = spoken second := by
  refine ⟨fun same => ?_, fun same => congrArg unlines same⟩
  rw [← spoken_withoutBlankLines first, same, spoken_withoutBlankLines]

theorem withoutBlankLines_eq_nil_iff : withoutBlankLines text = [] ↔ isBlankLine text := by
  rw [isBlankLine_iff_lines, ← spoken_eq_nil_iff]
  refine ⟨fun empty => ?_, withoutBlankLines_silent⟩
  rw [← spoken_withoutBlankLines, empty]
  rfl

end Text

end VDiagnostics
