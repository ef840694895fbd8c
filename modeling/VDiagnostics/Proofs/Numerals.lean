import VDiagnostics.Coordinate.Numeral
import VDiagnostics.Proofs.Trimming

/-! Integers that are printed in decimal are read back as the coordinates they are. -/

namespace VDiagnostics

namespace Text

theorem isDigit_of_mem_ofNat {n : Nat} {c : Char} (member : c ∈ ofNat n) : c.isDigit = true :=
  Nat.isDigit_of_mem_toDigits (by decide) (by decide) member

theorem isDigit_bounds {c : Char} (digit : c.isDigit = true) : 48 ≤ c.toNat ∧ c.toNat ≤ 57 := by
  simpa [Char.isDigit, UInt32.le_iff_toNat_le] using digit

private theorem digitValue?_ascii {c : Char} (digit : c.isDigit = true) : digitValue? c = some (c.toNat - 48) := by
  obtain ⟨low, high⟩ := isDigit_bounds digit
  have inside : c.toNat < 58 := by omega
  simp [digitValue?, zeroDigits, low, inside]

private theorem isBlank_ascii {c : Char} (digit : c.isDigit = true) : isBlank c = false := by
  obtain ⟨low, high⟩ := isDigit_bounds digit
  simp only [isBlank, Bool.or_eq_false_iff, Bool.and_eq_false_iff, decide_eq_false_iff_not, beq_eq_false_iff_ne]
  omega

/-- Ascii digits have the value that is common for them. -/
theorem digitsValue_ascii {digits : Text} (decimal : ∀ c ∈ digits, c.isDigit = true) :
    digitsValue digits = Nat.ofDigitChars 10 digits 0 := by
  rw [digitsValue, Nat.ofDigitChars_eq_foldl]
  apply List.foldl_ext
  intro value c member
  simp [digitValue?_ascii (decimal c member)]

private theorem digitsValue_ofNat (n : Nat) : digitsValue (ofNat n) = n := by
  rw [digitsValue_ascii fun c => isDigit_of_mem_ofNat]
  exact Nat.ofDigitChars_ten_toDigits

private theorem foldl_digits_lt (digits : Text) (start : Nat) :
    digits.foldl (fun value c => 10 * value + (digitValue? c).getD 0) start <
      (start + 1) * Nat.pow 10 digits.length := by
  induction digits generalizing start with
  | nil => simp
  | cons c rest ih =>
    have digit : (digitValue? c).getD 0 < 10 := by
      cases found : digitValue? c with
      | none => decide
      | some value => exact digitValue?_lt found
    have next : 10 * start + (digitValue? c).getD 0 + 1 ≤ (start + 1) * 10 := by omega
    calc rest.foldl (fun value c => 10 * value + (digitValue? c).getD 0) (10 * start + (digitValue? c).getD 0)
        < (10 * start + (digitValue? c).getD 0 + 1) * Nat.pow 10 rest.length := ih _
      _ ≤ (start + 1) * 10 * Nat.pow 10 rest.length := Nat.mul_le_mul_right _ next
      _ = (start + 1) * Nat.pow 10 (c :: rest).length := by
        rw [Nat.mul_assoc, Nat.mul_comm 10]
        rfl

/-- A number is printed with no more digits than it was read from. -/
theorem length_ofNat_digitsValue {digits : Text} (filled : digits ≠ []) :
    (ofNat (digitsValue digits)).length ≤ digits.length := by
  have bound := foldl_digits_lt digits 0
  rw [Nat.zero_add, Nat.one_mul] at bound
  exact (Nat.length_toDigits_le_iff (by decide) (List.length_pos_iff.mpr filled)).mpr bound

theorem ofNat_ne_nil (n : Nat) : ofNat n ≠ [] := Nat.toDigits_ne_nil

theorem signed_natAbs (n : Int) : (if decide (n < 0) = true then -(n.natAbs : Int) else n.natAbs) = n := by
  by_cases negative : n < 0
  · rw [if_pos (decide_eq_true negative)]
    omega
  · rw [if_neg (by simpa using negative)]
    omega

theorem mem_ofInt {n : Int} {c : Char} (member : c ∈ ofInt n) : c = '-' ∨ c.isDigit = true := by
  unfold ofInt at member
  split at member
  · rcases List.mem_cons.mp member with rfl | member
    · exact .inl rfl
    · exact .inr (isDigit_of_mem_ofNat member)
  · exact .inr (isDigit_of_mem_ofNat member)

theorem not_mem_ofInt {c : Char} (sign : c ≠ '-') (digit : c.isDigit = false) (n : Int) : c ∉ ofInt n := by
  intro member
  rcases mem_ofInt member with same | same
  · exact sign same
  · simp [digit] at same

theorem trim_ofInt (n : Int) : trim (ofInt n) = ofInt n := by
  have printed : ∀ c ∈ ofInt n, isBlank c = false := by
    intro c member
    rcases mem_ofInt member with rfl | digit
    · rfl
    · exact isBlank_ascii digit
  obtain ⟨front, back, before, behind, whole⟩ := trim_decompose (ofInt n)
  have empty : ∀ pad : Text, (∀ c ∈ pad, c ∈ ofInt n) → isBlankLine pad → pad = [] := by
    intro pad inside blank
    apply List.eq_nil_iff_forall_not_mem.mpr
    intro c member
    have said := printed c (inside c member)
    simp [List.all_eq_true.mp blank c member] at said
  have noFront := empty front (fun c member => by rw [whole]; simp [member]) before
  have noBack := empty back (fun c member => by rw [whole]; simp [member]) behind
  simpa [noFront, noBack] using whole.symm

end Text

namespace Coordinate

/-- A number with no more digits than are read. -/
def IsShort (n : Int) : Prop :=
  (Text.ofNat n.natAbs).length ≤ digitLimit

instance (n : Int) : Decidable (IsShort n) :=
  inferInstanceAs (Decidable (_ ≤ _))

theorem splitSign_digit {c : Char} (digit : Text.isDecimalDigit c) (rest : Text) :
    splitSign (c :: rest) = (false, c :: rest) := by
  unfold splitSign
  split
  next minus =>
    cases minus
    exact absurd digit (by decide)
  next plus =>
    cases plus
    exact absurd digit (by decide)
  next => rfl

private theorem isDecimalDigit_of_mem_ofNat {n : Nat} {c : Char} (member : c ∈ Text.ofNat n) :
    Text.isDecimalDigit c := by
  simp [Text.isDecimalDigit, Text.digitValue?_ascii (Text.isDigit_of_mem_ofNat member)]

private theorem splitSign_ofNat (n : Nat) (rest : Text) :
    splitSign (Text.ofNat n ++ rest) = (false, Text.ofNat n ++ rest) := by
  obtain ⟨c, digits, printed⟩ := List.exists_cons_of_ne_nil (Text.ofNat_ne_nil n)
  have digit : Text.isDecimalDigit c := isDecimalDigit_of_mem_ofNat (n := n) (by simp [printed])
  rw [printed, List.cons_append]
  exact splitSign_digit digit _

theorem takeWhile_digits {digits rest : Text} (decimal : ∀ c ∈ digits, Text.isDecimalDigit c)
    (ended : ∀ c ∈ rest.head?, Text.isDecimalDigit c = false) :
    (digits ++ rest).takeWhile Text.isDecimalDigit = digits := by
  rw [List.takeWhile_append_of_pos decimal]
  cases rest with
  | nil => simp
  | cons c rest => simp [ended c rfl]

private theorem takeWhile_ofNat (n : Nat) {rest : Text}
    (ended : ∀ c ∈ rest.head?, Text.isDecimalDigit c = false) :
    (Text.ofNat n ++ rest).takeWhile Text.isDecimalDigit = Text.ofNat n :=
  takeWhile_digits (fun _ member => isDecimalDigit_of_mem_ofNat member) ended

/-- An integer is read where it is printed, as long as no digit follows. -/
theorem read_ofInt_append {n : Int} (within : IsShort n) (rest : Text)
    (ended : ∀ c ∈ rest.head?, Text.isDecimalDigit c = false) :
    read (Text.ofInt n ++ rest) = .ok (known n) := by
  have start : Text.trimStart (Text.ofInt n ++ rest) = Text.ofInt n ++ rest := by
    cases printed : Text.ofInt n with
    | nil => unfold Text.ofInt at printed; split at printed <;> simp [Text.ofNat_ne_nil] at printed
    | cons c digits =>
      have said : Text.isBlank c = false := by
        rcases Text.mem_ofInt (n := n) (c := c) (by simp [printed]) with rfl | digit
        · rfl
        · exact Text.isBlank_ascii digit
      simp [Text.trimStart, said]
  have sign : splitSign (Text.ofInt n ++ rest) = (decide (n < 0), Text.ofNat n.natAbs ++ rest) := by
    unfold Text.ofInt
    split
    next negative => simp [splitSign, negative]
    next positive => simpa [positive] using splitSign_ofNat n.natAbs rest
  have printed : (Text.ofNat n.natAbs).isEmpty = false := by simp [Text.ofNat_ne_nil]
  have short : ¬ digitLimit < (Text.ofNat n.natAbs).length := Nat.not_lt.mpr within
  simp only [read, start, sign, takeWhile_ofNat n.natAbs ended, printed, short, Text.digitsValue_ofNat,
    Text.signed_natAbs, Bool.false_eq_true, if_false]

theorem read_ofInt {n : Int} (within : IsShort n) :
    read (Text.ofInt n) = .ok (known n) := by
  simpa using read_ofInt_append within [] (by simp)

end Coordinate

end VDiagnostics
