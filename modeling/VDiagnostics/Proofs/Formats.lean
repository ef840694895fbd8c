import VDiagnostics.Proofs.WarningRoundTrip

/-! How the format of an output is told. Its first line shows a warning, and what is printed of it apart
from blanks shows whether it says anything. -/

namespace VDiagnostics

namespace Text

/-- What follows a line does not show at its start, so long as it begins with a character of its own. -/
theorem startsWith_append {start back : Text} (ended : ∀ c ∈ back.head?, c ∉ start) (line : Text) :
    startsWith start (line ++ back) = startsWith start line := by
  unfold startsWith
  induction start generalizing line with
  | nil => simp
  | cons c start ih =>
    have others : ∀ d ∈ back.head?, d ∉ start := fun d member inside => ended d member (List.mem_cons_of_mem c inside)
    cases line with
    | cons d line => simp only [List.cons_append, List.isPrefixOf, ih others]
    | nil =>
      cases back with
      | nil => rfl
      | cons d back =>
        have other : c ≠ d := fun same => ended d rfl (same ▸ List.mem_cons_self)
        simp [List.isPrefixOf, other]

theorem startsWith_unlines {start : Text} (single : '\n' ∉ start) (first : Text) (rest : List Text) :
    startsWith start (unlines (first :: rest)) = startsWith start first := by
  cases rest with
  | nil => simp [unlines]
  | cons second more =>
    rw [unlines, List.intercalate_cons_cons, List.append_assoc]
    exact startsWith_append (by simpa using single) first

/-- What is printed of a text, blanks left out. -/
def ink (text : Text) : Text :=
  text.filter fun c => !isBlank c

@[simp] theorem ink_append (front back : Text) : ink (front ++ back) = ink front ++ ink back :=
  List.filter_append front back

theorem ink_blank {blanks : Text} (blank : isBlankLine blanks) : ink blanks = [] := by
  apply List.filter_eq_nil_iff.mpr
  intro c member
  simp [List.all_eq_true.mp blank c member]

theorem ink_unlines (lines : List Text) : ink (unlines lines) = lines.flatMap ink := by
  induction lines with
  | nil => rfl
  | cons first rest ih =>
    cases rest with
    | nil => simp [unlines]
    | cons second more =>
      have newline : ink ['\n'] = [] := rfl
      rw [unlines, List.intercalate_cons_cons, ← unlines, ink_append, ink_append, newline, ih]
      simp

private theorem ink_trim (text : Text) : ink (trim text) = ink text := by
  obtain ⟨front, back, before, behind, whole⟩ := trim_decompose text
  have spread := congrArg ink whole
  rw [ink_append, ink_append, ink_blank before, ink_blank behind, List.nil_append, List.append_nil] at spread
  exact spread.symm

private theorem isBlank_of_trimmed_concat {c : Char} {text : Text} (trimmed : trim (text ++ [c]) = text ++ [c]) :
    isBlank c = false := by
  cases blank : isBlank c with
  | false => rfl
  | true =>
    have shorter := length_trim_le text
    rw [← trim_concat_blank blank, trimmed, List.length_append, List.length_singleton] at shorter
    omega

/-- A trimmed text begins and ends in print, so it is as short as its print as long as that is one
character at most. -/
private theorem length_trim_le_one {text : Text} : (trim text).length ≤ 1 ↔ (ink text).length ≤ 1 := by
  have kept := trim_trim text
  rw [← ink_trim text]
  cases shape : trim text with
  | nil => simp [ink]
  | cons c rest =>
    rw [shape] at kept
    have first := isBlank_of_trimmed kept
    cases rest using List.reverseRecOn with
    | nil => simp [ink, first]
    | append_singleton middle d =>
      rw [← List.cons_append] at kept
      have last := isBlank_of_trimmed_concat kept
      simp [ink, first, last]

end Text

namespace Format

theorem warningStart_single : '\n' ∉ warningStart := by decide

theorem warningStart_printed {c : Char} (inside : c ∈ warningStart) : Text.isBlank c = false := by
  have printed : warningStart.all (fun c => !Text.isBlank c) = true := rfl
  simpa using List.all_eq_true.mp printed c inside

theorem ofOutput_eq_warning {output : Text} :
    ofOutput output = .warning ↔ Text.startsWith warningStart output := by
  refine ⟨fun warning => ?_, fun starts => ?_⟩
  · unfold ofOutput at warning
    split at warning
    · cases warning
    · split at warning
      next starts => exact starts
      next => cases warning
  · obtain ⟨rest, rfl⟩ := List.isPrefixOf_iff_prefix.mp starts
    exact Warning.ofOutput_warning rest

/-- The format depends on nothing but the start of the first line and how much is printed. -/
theorem ofOutput_congr {first second : Text}
    (starts : Text.startsWith warningStart first = Text.startsWith warningStart second)
    (printed : Text.ink first = Text.ink second) : ofOutput first = ofOutput second := by
  have short : (Text.trim first).length ≤ 1 ↔ (Text.trim second).length ≤ 1 := by
    rw [Text.length_trim_le_one, Text.length_trim_le_one, printed]
  simp only [ofOutput, starts, short]

end Format

end VDiagnostics
