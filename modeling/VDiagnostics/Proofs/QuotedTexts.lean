import VDiagnostics.Proofs.JsonLeaves
import VDiagnostics.Text.Quoted
import Mathlib.Algebra.Group.Nat.Defs

/-! Quoted texts in a log. A quoted text can be told from every other, since its characters can be taken off one by one
as they were escaped, and it is on one line with every character shown. -/

namespace VDiagnostics

namespace Text

private theorem isPrintable_ascii {c : Char} (low : 0x20 ≤ c.toNat) (high : c.toNat ≤ 0x7e) : isPrintable c := by
  have apart : ∀ range ∈ unprintableRanges, range.2 < 0x20 ∨ 0x7e < range.1 := by decide +kernel
  rw [isPrintable, Bool.not_eq_true', List.any_eq_false]
  intro range member
  have outside := apart range member
  simp only [Bool.and_eq_true, decide_eq_true_eq]
  omega

/-- One line on which every character can be seen. -/
structure IsLogLine (text : Text) : Prop where
  single : '\n' ∉ text
  printable : ∀ c ∈ text, isPrintable c

private theorem isLogLine_of_printable {text : Text} (printable : ∀ c ∈ text, isPrintable c) : IsLogLine text :=
  ⟨fun newline => absurd (printable _ newline) (by decide), printable⟩

theorem IsLogLine.append {front back : Text} (first : IsLogLine front) (second : IsLogLine back) :
    IsLogLine (front ++ back) :=
  isLogLine_of_printable (List.forall_mem_append.mpr ⟨first.printable, second.printable⟩)

private theorem isLogLine_ascii {text : Text} (ascii : ∀ c ∈ text, 0x20 ≤ c.toNat ∧ c.toNat ≤ 0x7e) : IsLogLine text :=
  isLogLine_of_printable fun c member => isPrintable_ascii (ascii c member).1 (ascii c member).2

theorem isLogLine_literal {text : Text} (ascii : text.all fun c => 0x20 ≤ c.toNat && c.toNat ≤ 0x7e) :
    IsLogLine text :=
  isLogLine_ascii fun c member => by simpa using List.all_eq_true.mp ascii c member

theorem isLogLine_ofInt (n : Int) : IsLogLine (ofInt n) := by
  apply isLogLine_ascii
  intro c member
  rcases mem_ofInt member with rfl | digit
  · decide
  · have bounds := isDigit_bounds digit
    omega

theorem isLogLine_ofNat (n : Nat) : IsLogLine (ofNat n) := by
  apply isLogLine_ascii
  intro c member
  have bounds := isDigit_bounds (isDigit_of_mem_ofNat member)
  omega

namespace Quoted

private theorem mark_cases (text : Text) : mark text = '\'' ∨ mark text = '"' := by
  unfold mark
  split
  · exact .inr rfl
  · exact .inl rfl

private theorem length_hex (width n : Nat) : (hex width n).length = width := by
  induction width generalizing n with
  | zero => rfl
  | succ width ih => rw [hex, List.length_append, ih, List.length_singleton]

private theorem mem_hex {width n : Nat} {c : Char} (member : c ∈ hex width n) :
    ∃ digit < 16, c = Nat.digitChar digit := by
  induction width generalizing n with
  | zero => cases member
  | succ width ih =>
    rcases List.mem_append.mp member with earlier | last
    · exact ih earlier
    · exact ⟨n % 16, Nat.mod_lt n (by decide), List.mem_singleton.mp last⟩

/-- The number that hexadecimal digits write. -/
def code (digits : Text) : Nat :=
  digits.foldl (fun value c => 16 * value + (Json.hexValue? c).getD 0) 0

private theorem code_hex {width n : Nat} (within : n < 16 ^ width) : code (hex width n) = n := by
  induction width generalizing n with
  | zero =>
    have none : n = 0 := by simpa using within
    rw [none]
    rfl
  | succ width ih =>
    have front : n / 16 < 16 ^ width := Nat.div_lt_of_lt_mul (by rwa [Nat.mul_comm, ← Nat.pow_succ])
    have earlier : (hex width (n / 16)).foldl (fun value c => 16 * value + (Json.hexValue? c).getD 0) 0 = n / 16 :=
      ih front
    rw [code, hex, List.foldl_append, earlier, List.foldl_cons, List.foldl_nil, Json.hexValue?_digitChar]
    exact Nat.div_add_mod n 16

/-- Takes one character off a text in which characters are escaped. -/
def first? : Text → Option (Char × Text)
  | [] => none
  | '\\' :: c :: rest =>
    if c = 'n' then some ('\n', rest)
    else if c = 'r' then some ('\r', rest)
    else if c = 't' then some ('\t', rest)
    else if c = 'x' then some (Char.ofNat (code (rest.take 2)), rest.drop 2)
    else if c = 'u' then some (Char.ofNat (code (rest.take 4)), rest.drop 4)
    else if c = 'U' then some (Char.ofNat (code (rest.take 8)), rest.drop 8)
    else some (c, rest)
  | c :: rest => some (c, rest)

private theorem first?_plain {c : Char} (other : c ≠ '\\') (rest : Text) : first? (c :: rest) = some (c, rest) := by
  unfold first?
  split
  next empty => cases empty
  next escaped =>
    cases escaped
    exact absurd rfl other
  next same =>
    cases same
    rfl

/-- As many digits as the number needs are read back, and no more. -/
private theorem ofNat_code_hex {width : Nat} {c : Char} (within : c.toNat < 16 ^ width) (rest : Text) :
    some (Char.ofNat (code ((hex width c.toNat ++ rest).take width)), (hex width c.toNat ++ rest).drop width) =
      some (c, rest) := by
  have length := length_hex width c.toNat
  rw [List.take_left' length, List.drop_left' length, code_hex within, Char.ofNat_toNat]

/-- How a character can be written between two marks: by itself, behind a backslash, or by a letter that stands for it
or tells how many digits its code has. -/
inductive Escaped (mark : Char) : Char → Text → Prop where
  | plain {c} (other : c ≠ '\\') (printable : isPrintable c) : Escaped mark c [c]
  | behind {c} (special : c = mark ∨ c = '\\') : Escaped mark c ['\\', c]
  | feed : Escaped mark '\n' ['\\', 'n']
  | carriage : Escaped mark '\r' ['\\', 'r']
  | tab : Escaped mark '\t' ['\\', 't']
  | two {c} (within : c.toNat < 16 ^ 2) : Escaped mark c ('\\' :: 'x' :: hex 2 c.toNat)
  | four {c} (within : c.toNat < 16 ^ 4) : Escaped mark c ('\\' :: 'u' :: hex 4 c.toNat)
  | eight {c} (within : c.toNat < 16 ^ 8) : Escaped mark c ('\\' :: 'U' :: hex 8 c.toNat)

private theorem escaped_escape (mark c : Char) : Escaped mark c (escape mark c) := by
  unfold escape
  split
  next special => exact .behind (by simpa using special)
  next other =>
    have unescaped : c ≠ '\\' := by
      rintro rfl
      simp at other
    split
    next same => exact same ▸ .feed
    split
    next same => exact same ▸ .carriage
    split
    next same => exact same ▸ .tab
    split
    next printable => exact .plain unescaped printable
    split
    · exact .two (by omega)
    split
    · exact .four (by omega)
    · have bound := CodePoint.toNat_bounds c
      exact .eight (by omega)

/-- A character is taken off as it was written, whatever follows. -/
theorem Escaped.first? {mark c : Char} {written : Text} (escaped : Escaped mark c written)
    (quote : mark = '\'' ∨ mark = '"') (rest : Text) : Quoted.first? (written ++ rest) = some (c, rest) := by
  cases escaped with
  | plain other printable => exact first?_plain other rest
  | behind special =>
    rcases special with rfl | rfl
    · rcases quote with rfl | rfl <;> rfl
    · rfl
  | feed => rfl
  | carriage => rfl
  | tab => rfl
  | two within => exact ofNat_code_hex within rest
  | four within => exact ofNat_code_hex within rest
  | eight within => exact ofNat_code_hex within rest

private theorem first?_escape {mark : Char} (quote : mark = '\'' ∨ mark = '"') (c : Char) (rest : Text) :
    first? (escape mark c ++ rest) = some (c, rest) :=
  (escaped_escape mark c).first? quote rest

private theorem flatMap_escape_inj {mark : Char} (quote : mark = '\'' ∨ mark = '"') {first second : Text}
    (same : first.flatMap (escape mark) = second.flatMap (escape mark)) : first = second := by
  induction first generalizing second with
  | nil =>
    cases second with
    | nil => rfl
    | cons d others =>
      have taken := congrArg first? same
      rw [List.flatMap_cons, first?_escape quote] at taken
      cases taken
  | cons c rest ih =>
    have taken := congrArg first? same
    rw [List.flatMap_cons, first?_escape quote] at taken
    cases second with
    | nil => cases taken
    | cons d others =>
      rw [List.flatMap_cons, first?_escape quote, Option.some.injEq, Prod.mk.injEq] at taken
      obtain ⟨rfl, later⟩ := taken
      rw [ih later]

theorem Escaped.isLogLine {mark c : Char} {written : Text} (escaped : Escaped mark c written)
    (quote : mark = '\'' ∨ mark = '"') : IsLogLine written := by
  have short (d : Char) (ascii : 0x20 ≤ d.toNat ∧ d.toNat ≤ 0x7e) : IsLogLine ['\\', d] :=
    isLogLine_ascii (List.forall_mem_cons.mpr ⟨by decide, List.forall_mem_singleton.mpr ascii⟩)
  have digits : ∀ digit < 16, 0x20 ≤ (Nat.digitChar digit).toNat ∧ (Nat.digitChar digit).toNat ≤ 0x7e := by decide
  have long (d : Char) (ascii : 0x20 ≤ d.toNat ∧ d.toNat ≤ 0x7e) (width : Nat) :
      IsLogLine ('\\' :: d :: hex width c.toNat) := by
    refine (short d ascii).append (isLogLine_ascii fun e member => ?_)
    obtain ⟨digit, small, rfl⟩ := mem_hex member
    exact digits digit small
  cases escaped with
  | plain other printable => exact isLogLine_of_printable (List.forall_mem_singleton.mpr printable)
  | behind special =>
    apply short
    rcases special with rfl | rfl
    · rcases quote with rfl | rfl <;> decide
    · decide
  | feed => exact short 'n' (by decide)
  | carriage => exact short 'r' (by decide)
  | tab => exact short 't' (by decide)
  | two within => exact long 'x' (by decide) 2
  | four within => exact long 'u' (by decide) 4
  | eight within => exact long 'U' (by decide) 8

end Quoted

theorem quoted_inj {first second : Text} : quoted first = quoted second ↔ first = second := by
  refine ⟨fun same => ?_, congrArg quoted⟩
  obtain ⟨marks, inner⟩ : Quoted.mark first = Quoted.mark second ∧
      first.flatMap (Quoted.escape (Quoted.mark first)) ++ [Quoted.mark first] =
        second.flatMap (Quoted.escape (Quoted.mark second)) ++ [Quoted.mark second] :=
    List.cons.inj same
  rw [← marks] at inner
  exact Quoted.flatMap_escape_inj (Quoted.mark_cases first) (List.append_cancel_right inner)

theorem isLogLine_quoted (text : Text) : IsLogLine (quoted text) := by
  have quote := Quoted.mark_cases text
  have mark : IsLogLine [Quoted.mark text] := by
    rcases quote with same | same <;> rw [same] <;> exact isLogLine_literal (by decide)
  have inner : IsLogLine (text.flatMap (Quoted.escape (Quoted.mark text))) := by
    apply isLogLine_of_printable
    intro c member
    obtain ⟨d, _, inside⟩ := List.mem_flatMap.mp member
    exact ((Quoted.escaped_escape _ d).isLogLine quote).printable c inside
  exact (mark.append inner).append mark

end Text

end VDiagnostics
