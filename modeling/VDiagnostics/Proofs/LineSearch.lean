import VDiagnostics.Proofs.BlankLines

/-! The first line with a marker. Blank lines have no marker that can be seen, so a search finds the
same line whether they were taken away or not. -/

namespace VDiagnostics

namespace Text

theorem contains_iff_infix {marker text : Text} : contains marker text = true ↔ marker <:+: text := by
  induction text with
  | nil => simp [contains]
  | cons c rest ih => simp [contains, List.infix_cons_iff, ih]

/-- A marker that can be seen is on no blank line. -/
theorem isBlankLine_of_contains {marker line : Text} (seen : isBlankLine marker = false)
    (found : contains marker line) : isBlankLine line = false := by
  obtain ⟨front, back, rfl⟩ := contains_iff_infix.mp found
  simp only [isBlankLine] at seen
  simp [isBlankLine, seen]

theorem lineWith?_filter {marker : Text} (seen : isBlankLine marker = false) (lines : List Text) :
    lineWith? marker (lines.filter fun line => !isBlankLine line) = lineWith? marker lines := by
  rw [lineWith?, lineWith?, List.find?_filter]
  congr 1
  funext line
  cases found : contains marker line with
  | false => simp
  | true => simp [isBlankLine_of_contains seen found]

/-- A search through the whole text finds what it finds without the blank lines. -/
theorem lineWith?_withoutBlankLines {marker : Text} (seen : isBlankLine marker = false) (text : Text) :
    lineWith? marker (lines (withoutBlankLines text)) = lineWith? marker (lines text) := by
  rw [← lineWith?_filter seen (lines text), ← lineWith?_filter seen (lines (withoutBlankLines text))]
  exact congrArg (lineWith? marker) (spoken_withoutBlankLines text)

/-- A marker that ends in print is not found across blanks at the end of a line. -/
theorem contains_pad {marker blanks : Text} (ended : marker.getLast?.all fun c => !isBlank c)
    (blank : isBlankLine blanks) (line : Text) : contains marker (line ++ blanks) = contains marker line := by
  rw [Bool.eq_iff_iff, contains_iff_infix, contains_iff_infix]
  refine ⟨fun found => ?_, fun found => found.trans (List.prefix_append line blanks).isInfix⟩
  induction blanks using List.reverseRecOn with
  | nil => simpa using found
  | append_singleton blanks c ih =>
    obtain ⟨others, last⟩ := List.forall_mem_append.mp (List.all_eq_true.mp blank)
    rw [← List.append_assoc, List.infix_concat_iff] at found
    rcases found with suffix | inside
    · rcases List.suffix_concat_iff.mp suffix with rfl | ⟨stem, rfl, _⟩
      · exact List.nil_infix
      · simp [last c (by simp)] at ended
    · exact ih (List.all_eq_true.mpr others) inside

theorem lineWith?_skip {marker : Text} {front : List Text} (absent : ∀ line ∈ front, contains marker line = false)
    (rest : List Text) : lineWith? marker (front ++ rest) = lineWith? marker rest := by
  have none : front.find? (contains marker) = none := by simpa [List.find?_eq_none] using absent
  rw [lineWith?, List.find?_append, none, Option.none_or, lineWith?]

theorem lineWith?_head {marker : Text} {lines : List Text} (marked : ∀ line ∈ lines.head?, contains marker line) :
    lineWith? marker lines = lines.head? := by
  cases lines with
  | nil => rfl
  | cons first rest => simp [lineWith?, marked first rfl]

end Text

end VDiagnostics
