import VDiagnostics.Proofs.Legibility
import Mathlib.Algebra.Group.Nat.Defs

/-! How integers are written where a coordinate is read: behind blanks, with a sign or without one, in decimal digits
of any scripts. Every text is read by this grammar, and one that is not of its form has an unknown coordinate. -/

namespace VDiagnostics

namespace Text

/-- The value of digits by their places: each counts as many times as ten to the number of digits behind it. -/
def placeValue : Text → Nat
  | [] => 0
  | c :: rest => (digitValue? c).getD 0 * 10 ^ rest.length + placeValue rest

private theorem foldl_digits_eq (digits : Text) (start : Nat) :
    digits.foldl (fun value c => 10 * value + (digitValue? c).getD 0) start =
      start * 10 ^ digits.length + placeValue digits := by
  induction digits generalizing start with
  | nil => simp [placeValue]
  | cons c rest ih =>
    rw [List.foldl_cons, ih, placeValue, List.length_cons, Nat.pow_succ, Nat.add_mul, Nat.add_assoc, Nat.mul_comm 10,
      Nat.mul_assoc, Nat.mul_comm 10]

private theorem digitsValue_eq_placeValue (digits : Text) : digitsValue digits = placeValue digits := by
  rw [digitsValue, foldl_digits_eq, Nat.zero_mul, Nat.zero_add]

/-- No script has a digit among the blanks. -/
theorem isBlank_of_isDecimalDigit {c : Char} (digit : isDecimalDigit c) : isBlank c = false := by
  have gaps : ∀ start ∈ zeroDigits, start = 0x30 ∨ 0x660 ≤ start ∧ start + 10 ≤ 0x1680 ∨
      0x1681 ≤ start ∧ start + 10 ≤ 0x2000 ∨ 0x3001 ≤ start := by
    decide
  obtain ⟨value, known⟩ := Option.isSome_iff_exists.mp digit
  obtain ⟨start, found, _⟩ := Option.map_eq_some_iff.mp known
  have script := gaps start (List.mem_of_find?_eq_some found)
  have bounds := List.find?_some found
  simp only [Bool.and_eq_true, decide_eq_true_eq] at bounds
  simp only [isBlank, Bool.or_eq_false_iff, Bool.and_eq_false_iff, decide_eq_false_iff_not, beq_eq_false_iff_ne]
  omega

end Text

namespace Coordinate

/-- At most one sign, and whether it is a minus. -/
inductive Sign : Text → Bool → Prop where
  | none : Sign [] false
  | plus : Sign ['+'] false
  | minus : Sign ['-'] true

/-- The digits do not go on in what follows them. -/
def EndsDigits (rest : Text) : Prop :=
  ∀ c ∈ rest.head?, Text.isDecimalDigit c = false

theorem endsDigits_nil : EndsDigits [] := by
  simp [EndsDigits]

private theorem endsDigits_cons {c : Char} (other : Text.isDecimalDigit c = false) (rest : Text) :
    EndsDigits (c :: rest) := by
  rintro _ ⟨⟩
  exact other

/-- A text begins with an integer that has a sign and some digits. -/
inductive Begins : Text → Bool → Text → Prop where
  | intro {blanks sign negative digits rest} (blank : Text.isBlankLine blanks) (signed : Sign sign negative)
      (filled : digits ≠ []) (decimal : ∀ c ∈ digits, Text.isDecimalDigit c) (ends : EndsDigits rest) :
      Begins (blanks ++ (sign ++ (digits ++ rest))) negative digits

/-- The integer with a sign and some digits. -/
def signed (negative : Bool) (digits : Text) : Int :=
  if negative then -(Text.placeValue digits : Int) else Text.placeValue digits

private theorem splitSign_signed {sign digits : Text} {negative : Bool} (signed : Sign sign negative) {c : Char}
    (digit : Text.isDecimalDigit c) : splitSign (sign ++ c :: digits) = (negative, c :: digits) := by
  cases signed with
  | none => exact splitSign_digit digit digits
  | plus => rfl
  | minus => rfl

private theorem exists_sign (text : Text) :
    ∃ sign, Sign sign (splitSign text).1 ∧ text = sign ++ (splitSign text).2 := by
  unfold splitSign
  split
  · exact ⟨_, .minus, rfl⟩
  · exact ⟨_, .plus, rfl⟩
  · exact ⟨_, .none, rfl⟩

theorem Sign.isBlank_of_mem {sign : Text} {negative : Bool} (signed : Sign sign negative) {c : Char}
    (member : c ∈ sign) : Text.isBlank c = false := by
  cases signed with
  | none => cases member
  | plus =>
    obtain rfl := List.mem_singleton.mp member
    rfl
  | minus =>
    obtain rfl := List.mem_singleton.mp member
    rfl

/-- What stands behind the blanks is taken as it is. -/
private theorem trimStart_signed {blanks sign rest : Text} {negative : Bool} (blank : Text.isBlankLine blanks)
    (signed : Sign sign negative) {c : Char} (digit : Text.isDecimalDigit c) :
    Text.trimStart (blanks ++ (sign ++ c :: rest)) = sign ++ c :: rest := by
  rw [Text.trimStart_pad blank]
  cases sign with
  | nil => simp [Text.trimStart, Text.isBlank_of_isDecimalDigit digit]
  | cons mark others => simp [Text.trimStart, signed.isBlank_of_mem List.mem_cons_self]

/-- The reader takes apart a text of the form as it was put together. -/
theorem Begins.cut {text digits : Text} {negative : Bool} (begins : Begins text negative digits) :
    digits ≠ [] ∧ (splitSign (Text.trimStart text)).1 = negative ∧ Coordinate.digits text = digits := by
  cases begins with
  | @intro blanks sign _ _ rest blank signed filled decimal ends =>
    obtain ⟨c, others, rfl⟩ := List.exists_cons_of_ne_nil filled
    have digit := decimal c List.mem_cons_self
    have start := @trimStart_signed _ _ (others ++ rest) _ blank signed c digit
    have cut := @splitSign_signed _ (others ++ rest) _ signed c digit
    rw [List.cons_append, Coordinate.digits, start, cut]
    exact ⟨filled, rfl, takeWhile_digits decimal ends⟩

private theorem begins_digits {text : Text} (filled : digits text ≠ []) :
    Begins text (splitSign (Text.trimStart text)).1 (digits text) := by
  obtain ⟨sign, signed, spelled⟩ := exists_sign (Text.trimStart text)
  have blank : Text.isBlankLine (text.takeWhile Text.isBlank) :=
    List.all_eq_true.mpr fun c member => List.mem_takeWhile_imp member
  have decimal : ∀ c ∈ digits text, Text.isDecimalDigit c := fun c member => List.mem_takeWhile_imp member
  have ends : EndsDigits ((splitSign (Text.trimStart text)).2.dropWhile Text.isDecimalDigit) := by
    intro c first
    have stopped := List.head?_dropWhile_not Text.isDecimalDigit (splitSign (Text.trimStart text)).2
    rw [Option.mem_def.mp first] at stopped
    simpa using stopped
  have whole := Begins.intro blank signed filled decimal ends
  rwa [digits, List.takeWhile_append_dropWhile, ← spelled, Text.trimStart, List.takeWhile_append_dropWhile] at whole

/-- What reading a text gives, by the integer that it begins with. Zeros in front count as digits. -/
inductive Gives : Text → Except Fault Coordinate → Prop where
  | unknown {text} (absent : ∀ negative digits, ¬ Begins text negative digits) : Gives text (.ok unknown)
  | known {text negative digits} (begins : Begins text negative digits) (short : digits.length ≤ digitLimit) :
      Gives text (.ok (known (signed negative digits)))
  | tooLong {text negative digits} (begins : Begins text negative digits) (long : digitLimit < digits.length) :
      Gives text (.error (.numeralTooLong digits.length))

private theorem read_absent {text : Text} (absent : ∀ negative digits, ¬ Begins text negative digits) :
    read text = .ok unknown := by
  have empty : digits text = [] := by
    by_contra filled
    exact absent _ _ (begins_digits filled)
  rw [read_eq_digits, empty]
  rfl

private theorem read_begins {text digits : Text} {negative : Bool} (begins : Begins text negative digits) :
    read text = if digitLimit < digits.length then .error (.numeralTooLong digits.length)
      else .ok (known (signed negative digits)) := by
  obtain ⟨filled, rfl, rfl⟩ := begins.cut
  rw [read_eq_digits, List.isEmpty_eq_false_iff.mpr filled, if_neg Bool.false_ne_true, Text.digitsValue_eq_placeValue]
  rfl

theorem Gives.read_eq {text : Text} {result : Except Fault Coordinate} (gives : Gives text result) :
    read text = result := by
  cases gives with
  | unknown absent => exact read_absent absent
  | known begins short => rw [read_begins begins, if_neg (Nat.not_lt.mpr short)]
  | tooLong begins long => rw [read_begins begins, if_pos long]

private theorem gives_read (text : Text) : Gives text (read text) := by
  by_cases present : ∃ negative digits, Begins text negative digits
  · obtain ⟨negative, digits, begins⟩ := present
    rw [read_begins begins]
    split
    next long => exact .tooLong begins long
    next short => exact .known begins (Nat.not_lt.mp short)
  · have absent : ∀ negative digits, ¬ Begins text negative digits := by simpa using present
    rw [read_absent absent]
    exact .unknown absent

/-- The reader accepts what the grammar does, with the value that the digits have by their places, and an integer is
read back from its decimal form. -/
theorem read_iff_gives :
    (∀ text result, read text = result ↔ Gives text result) ∧
      ∀ n rest, IsShort n → EndsDigits rest → read (Text.ofInt n ++ rest) = .ok (known n) := by
  refine ⟨fun text result => ⟨?_, Gives.read_eq⟩, fun n rest short => read_ofInt_append short rest⟩
  rintro rfl
  exact gives_read text

/-- Digits of three scripts behind a wide blank, a sign without digits right behind it, and as many ones as are read
and one more. -/
theorem read_iff_gives_mixed :
    read "\u2003-\u06604\u0968:x".toList = .ok (known (-42)) ∧ read "+ 1".toList = .ok unknown ∧
      (∃ value, read ('+' :: List.replicate 4300 '1') = .ok (known value)) ∧
      read ('+' :: List.replicate 4301 '1') = .error (.numeralTooLong 4301) ∧
      read (Text.ofInt (-70) ++ ":3".toList) = .ok (known (-70)) := by
  obtain ⟨accepts, printed⟩ := read_iff_gives
  have mixed : Begins "\u2003-\u06604\u0968:x".toList true "\u06604\u0968".toList :=
    @Begins.intro ['\u2003'] ['-'] true "\u06604\u0968".toList ":x".toList (by decide) .minus (by decide)
      (List.all_eq_true.mp (by decide)) (endsDigits_cons (by decide) _)
  have absent : ∀ negative digits, ¬ Begins "+ 1".toList negative digits := by
    intro negative digits begins
    obtain ⟨filled, _, rfl⟩ := begins.cut
    exact filled (by decide)
  have ones (count : Nat) : Begins ('+' :: List.replicate (count + 1) '1') false (List.replicate (count + 1) '1') := by
    have decimal : ∀ c ∈ List.replicate (count + 1) '1', Text.isDecimalDigit c := by
      intro c member
      rw [List.eq_of_mem_replicate member]
      decide
    have whole := @Begins.intro [] ['+'] false _ [] rfl .plus (by simp) decimal endsDigits_nil
    rwa [List.append_nil] at whole
  have most : (List.replicate 4300 '1').length ≤ digitLimit := by
    rw [List.length_replicate]
    decide
  have beyond : digitLimit < (List.replicate 4301 '1').length := by
    rw [List.length_replicate]
    decide
  refine ⟨(accepts _ _).mpr (.known mixed (by decide)), (accepts _ _).mpr (.unknown absent),
    ⟨_, (accepts _ _).mpr (.known (ones 4299) most)⟩, ?_, printed (-70) _ (by decide) (endsDigits_cons (by decide) _)⟩
  have long := (accepts _ _).mpr (.tooLong (ones 4300) beyond)
  rwa [List.length_replicate] at long

end Coordinate

end VDiagnostics
