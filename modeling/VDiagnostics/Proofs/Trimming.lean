import VDiagnostics.Text.Blank
import VDiagnostics.Proofs.Splitting
import Mathlib.Data.List.DropRight
import Mathlib.Data.List.TakeWhile

/-! Blanks around a text do not matter once it is trimmed, and neither do blanks around the fields of a
line or blank lines around the lines of a text. -/

namespace VDiagnostics

namespace Text

/-- Blanks that stay on their line. -/
structure IsPadding (blanks : Text) : Prop where
  blank : isBlankLine blanks
  single : '\n' ∉ blanks

instance (blanks : Text) : Decidable blanks.IsPadding :=
  decidable_of_iff (isBlankLine blanks ∧ '\n' ∉ blanks)
    ⟨fun ⟨blank, single⟩ => ⟨blank, single⟩, fun padding => ⟨padding.blank, padding.single⟩⟩

theorem trimStart_pad {front : Text} (blank : isBlankLine front) (text : Text) :
    trimStart (front ++ text) = trimStart text :=
  List.dropWhile_append_of_pos (List.all_eq_true.mp blank)

theorem trimEnd_pad {back : Text} (blank : isBlankLine back) (text : Text) :
    trimEnd (text ++ back) = trimEnd text := by
  have reversed : ∀ c ∈ back.reverse, isBlank c = true := by
    intro c member
    exact List.all_eq_true.mp blank c (List.mem_reverse.mp member)
  rw [trimEnd, List.reverse_append, List.dropWhile_append_of_pos reversed, trimEnd]

theorem trimEnd_append {back : Text} (speaks : isBlankLine back = false) (front : Text) :
    trimEnd (front ++ back) = front ++ trimEnd back := by
  have kept : (back.reverse.dropWhile isBlank).isEmpty = false := by
    rw [List.isEmpty_eq_false_iff]
    intro emptied
    have all := List.dropWhile_eq_nil_iff.mp emptied
    have none : isBlankLine back = true := List.all_eq_true.mpr fun c member => all c (List.mem_reverse.mpr member)
    simp [none] at speaks
  rw [trimEnd, List.reverse_append, List.dropWhile_append, kept]
  simp [trimEnd]

private theorem trimStart_blank {text : Text} (blank : isBlankLine text) : trimStart text = [] :=
  List.dropWhile_eq_nil_iff.mpr (List.all_eq_true.mp blank)

theorem trim_blank {text : Text} (blank : isBlankLine text) : trim text = [] := by
  rw [trim, trimStart_blank blank]
  rfl

@[simp] theorem trim_nil : trim [] = [] := rfl

theorem trim_pad {front back : Text} (before : isBlankLine front) (behind : isBlankLine back) (text : Text) :
    trim (front ++ text ++ back) = trim text := by
  rw [List.append_assoc, trim, trimStart_pad before]
  by_cases blank : isBlankLine text
  · rw [trimStart_pad blank, trimStart_blank behind, trim_blank blank]
    rfl
  · have kept : (trimStart text).isEmpty = false := by
      rw [List.isEmpty_eq_false_iff]
      exact fun emptied => blank (List.all_eq_true.mpr (List.dropWhile_eq_nil_iff.mp emptied))
    have moved : trimStart (text ++ back) = trimStart text ++ back := by
      simp only [trimStart] at kept ⊢
      simp [List.dropWhile_append, kept]
    rw [moved, trimEnd_pad behind, trim]

theorem trim_append_blanks {back : Text} (behind : isBlankLine back) (text : Text) : trim (text ++ back) = trim text :=
  trim_pad (show isBlankLine [] by rfl) behind text

theorem trim_decompose (text : Text) :
    ∃ front back, isBlankLine front ∧ isBlankLine back ∧ text = front ++ trim text ++ back := by
  refine ⟨text.takeWhile isBlank, (trimStart text).rtakeWhile isBlank, ?_, ?_, ?_⟩
  · exact List.all_eq_true.mpr fun c member => List.mem_takeWhile_imp member
  · exact List.all_eq_true.mpr fun c member => List.mem_rtakeWhile_imp member
  · have ending : trim text ++ (trimStart text).rtakeWhile isBlank = trimStart text :=
      List.rdropWhile_append_rtakeWhile
    rw [List.append_assoc, ending]
    exact List.takeWhile_append_dropWhile.symm

@[simp] theorem trim_trim (text : Text) : trim (trim text) = trim text := by
  obtain ⟨front, back, before, behind, whole⟩ := trim_decompose text
  calc trim (trim text) = trim (front ++ trim text ++ back) := (trim_pad before behind _).symm
    _ = trim text := by rw [← whole]

theorem trim_eq_nil_iff {text : Text} : trim text = [] ↔ isBlankLine text := by
  refine ⟨fun emptied => ?_, trim_blank⟩
  obtain ⟨front, back, before, behind, whole⟩ := trim_decompose text
  rw [emptied, List.append_nil] at whole
  simp only [isBlankLine] at before behind ⊢
  rw [whole, List.all_append, before, behind]
  rfl

theorem trim_cons_blank {c : Char} (blank : isBlank c) (text : Text) : trim (c :: text) = trim text := by
  simpa using trim_pad (show isBlankLine [c] by simp [isBlankLine, blank]) (show isBlankLine [] by rfl) text

theorem trim_concat_blank {c : Char} (blank : isBlank c) (text : Text) : trim (text ++ [c]) = trim text :=
  trim_append_blanks (by simp [isBlankLine, blank]) text

theorem trim_cons {c : Char} (printed : isBlank c = false) (text : Text) :
    trim (c :: text) = trimEnd (c :: text) := by
  simp [trim, trimStart, printed]

theorem trim_printed {c : Char} (printed : isBlank c = false) (text : Text) :
    trim (c :: text) = c :: trimEnd text := by
  rw [trim_cons printed]
  by_cases blank : isBlankLine text
  · have behind : trimEnd text = [] := trimEnd_pad blank []
    have alone : trimEnd ([c] ++ text) = trimEnd [c] := trimEnd_pad blank [c]
    rw [behind]
    exact alone.trans (by simp [trimEnd, printed])
  · exact trimEnd_append (by simpa using blank) [c]

theorem length_trim_le (text : Text) : (trim text).length ≤ text.length := by
  obtain ⟨front, back, _, _, whole⟩ := trim_decompose text
  have length := congrArg List.length whole
  simp only [List.length_append] at length
  omega

theorem isBlank_of_trimmed {c : Char} {text : Text} (trimmed : trim (c :: text) = c :: text) :
    isBlank c = false := by
  cases blank : isBlank c with
  | false => rfl
  | true =>
    have shorter := length_trim_le text
    rw [← trim_cons_blank blank, trimmed, List.length_cons] at shorter
    omega

private theorem trim_split_cons {separator c : Char} (blank : isBlank c) (other : c ≠ separator) (text : Text) :
    (split separator (c :: text)).map trim = (split separator text).map trim := by
  obtain ⟨first, rest, pieced, equal⟩ := split_cons_ne other text
  simp [equal, pieced, trim_cons_blank blank]

private theorem trim_split_concat {separator c : Char} (blank : isBlank c) (other : c ≠ separator) (text : Text) :
    (split separator (text ++ [c])).map trim = (split separator text).map trim := by
  obtain ⟨front, last, before, behind⟩ := split_concat separator c text
  rw [if_neg other] at behind
  simp [before, behind, trim_concat_blank blank]

/-- Blanks at both ends of a text may come and go where no blank changes what is read. -/
theorem invariant_trim {α : Type} (read : Text → α)
    (cons : ∀ c text, isBlank c → read (c :: text) = read text)
    (concat : ∀ c text, isBlank c → read (text ++ [c]) = read text) (text : Text) :
    read (trim text) = read text := by
  have leading : ∀ front rest, isBlankLine front → read (front ++ rest) = read rest := by
    intro front rest blank
    induction front with
    | nil => rfl
    | cons c front ih =>
      obtain ⟨first, others⟩ := List.forall_mem_cons.mp (List.all_eq_true.mp blank)
      rw [List.cons_append, cons c _ first]
      exact ih (List.all_eq_true.mpr others)
  have trailing : ∀ back rest, isBlankLine back → read (rest ++ back) = read rest := by
    intro back rest blank
    induction back generalizing rest with
    | nil => simp
    | cons c back ih =>
      obtain ⟨first, others⟩ := List.forall_mem_cons.mp (List.all_eq_true.mp blank)
      rw [List.append_cons, ih (rest ++ [c]) (List.all_eq_true.mpr others), concat c rest first]
  obtain ⟨front, back, before, behind, whole⟩ := trim_decompose text
  calc read (trim text) = read (front ++ (trim text ++ back)) := by
        rw [leading _ _ before, trailing _ _ behind]
    _ = read text := by rw [← List.append_assoc, ← whole]

theorem trim_split_trim {separator : Char} (printed : isBlank separator = false) (text : Text) :
    (split separator (trim text)).map trim = (split separator text).map trim := by
  have other : ∀ c, isBlank c → c ≠ separator := by
    intro c blank same
    simp [same, printed] at blank
  apply invariant_trim fun text => (split separator text).map trim
  · exact fun c text blank => trim_split_cons blank (other c blank) text
  · exact fun c text blank => trim_split_concat blank (other c blank) text

/-- The lines that say something, trimmed and in their order. -/
def remarks (text : Text) : List Text :=
  ((lines text).map trim).filter (· ≠ [])

/-- A line as it counts: trimmed, and with something on it. -/
structure IsRemark (line : Text) : Prop where
  trimmed : trim line = line
  speaks : line ≠ []

theorem isRemark_of_mem {line text : Text} (member : line ∈ remarks text) : line.IsRemark := by
  obtain ⟨inside, speaks⟩ := List.mem_filter.mp member
  obtain ⟨whole, _, rfl⟩ := List.mem_map.mp inside
  exact ⟨trim_trim whole, by simpa using speaks⟩

theorem remarks_append (front back : Text) : remarks (front ++ '\n' :: back) = remarks front ++ remarks back := by
  rw [remarks, lines, split_append, List.map_append, List.filter_append]
  rfl

/-- A text that begins in print says something at once. -/
theorem remarks_printed {c : Char} (printed : isBlank c = false) (inside : c ≠ '\n') (text : Text) :
    ∃ line rest, remarks (c :: text) = (c :: line) :: rest := by
  obtain ⟨first, others, _, cut⟩ := split_cons_ne inside text
  exact ⟨trimEnd first, (others.map trim).filter (· ≠ []), by simp [remarks, lines, cut, trim_printed printed]⟩

/-- Trimming a text takes away blank lines and blanks of other lines, but nothing that is said. -/
theorem remarks_trim (text : Text) : remarks (trim text) = remarks text := by
  apply invariant_trim
  · intro c text blank
    by_cases newline : c = '\n'
    · subst newline
      simp [remarks, lines, split_cons_self]
    · simp only [remarks, lines, trim_split_cons blank newline]
  · intro c text blank
    by_cases newline : c = '\n'
    · obtain ⟨front, last, before, behind⟩ := split_concat '\n' c text
      rw [if_pos newline] at behind
      simp [remarks, lines, before, behind, List.filter_cons]
    · simp only [remarks, lines, trim_split_concat blank newline]

end Text

end VDiagnostics
