import VDiagnostics.Proofs.JsonGrammar

/-! Words as they are cut. A word is taken for a value just if it is one of the value's literals, and else for an
integer of too many digits or for something malformed. -/

namespace VDiagnostics

namespace Json

/-- No digit goes on here. -/
def EndsDigits (rest : Text) : Prop :=
  ∀ c ∈ rest.head?, isDigit c = false

theorem endsDigits_nil : EndsDigits [] := by
  simp [EndsDigits]

private theorem endsDigits_dropWhile (text : Text) : EndsDigits (text.dropWhile isDigit) := by
  intro c member
  have boundary := List.head?_dropWhile_not isDigit text
  rw [Option.mem_def.mp member] at boundary
  exact boundary

theorem takeWhile_digits {front back : Text} (inside : ∀ c ∈ front, isDigit c) (ended : EndsDigits back) :
    (front ++ back).takeWhile isDigit = front := by
  rw [List.takeWhile_append_of_pos inside]
  cases back with
  | nil => simp
  | cons c rest => simp [ended c rfl]

private theorem dropWhile_digits {front back : Text} (inside : ∀ c ∈ front, isDigit c) (ended : EndsDigits back) :
    (front ++ back).dropWhile isDigit = back := by
  rw [List.dropWhile_append_of_pos inside]
  cases back with
  | nil => rfl
  | cons c rest => simp [ended c rfl]

theorem Whole.exists_first {whole : Text} (isWhole : Whole whole) : ∃ c rest, whole = c :: rest ∧ isDigit c := by
  obtain ⟨some, decimal⟩ := isWhole.decimal
  obtain ⟨c, rest, rfl⟩ := List.exists_cons_of_ne_nil some
  exact ⟨c, rest, rfl, decimal c List.mem_cons_self⟩

private theorem cutSign_sound (text : Text) : ∃ sign, text = sign ++ (cutSign text).2 ∧ Sign sign (cutSign text).1 := by
  unfold cutSign
  split
  · exact ⟨['-'], rfl, .minus⟩
  · exact ⟨[], rfl, .none⟩

private theorem cutSign_append {sign whole : Text} {negative : Bool} (signed : Sign sign negative)
    (isWhole : Whole whole) (rest : Text) : cutSign (sign ++ (whole ++ rest)) = (negative, whole ++ rest) := by
  obtain ⟨c, others, rfl, digit⟩ := isWhole.exists_first
  cases signed with
  | none =>
    unfold cutSign
    split
    next minus => cases minus; cases digit
    next => rfl
  | minus => rfl

private theorem cutInteger?_sound {text whole rest : Text} (cut : cutInteger? text = some (whole, rest)) :
    text = whole ++ rest ∧ Whole whole ∧ (whole = ['0'] ∨ EndsDigits rest) := by
  unfold cutInteger? at cut
  split at cut
  · cases cut
    exact ⟨rfl, .zero, .inl rfl⟩
  next c others leads =>
    split at cut
    next digit =>
      cases cut
      refine ⟨List.takeWhile_append_dropWhile.symm, ?_, .inr (endsDigits_dropWhile _)⟩
      rw [List.takeWhile_cons_of_pos digit]
      refine .digits leads ?_
      exact List.forall_mem_cons.mpr ⟨digit, fun d member => List.mem_takeWhile_imp member⟩
    next => cases cut
  · cases cut

private theorem cutInteger?_append {whole rest : Text} (isWhole : Whole whole) (ends : EndsDigits rest) :
    cutInteger? (whole ++ rest) = some (whole, rest) := by
  cases isWhole with
  | zero => rfl
  | @digits c others leads decimal =>
    have run := takeWhile_digits decimal ends
    have after := dropWhile_digits decimal ends
    unfold cutInteger?
    split
    next zero => cases zero; exact absurd rfl leads
    next same =>
      cases same
      rw [if_pos (decimal c List.mem_cons_self), run, after]
    next none => cases none

private theorem cutFraction_sound (text : Text) :
    ∃ point, text = point ++ (cutFraction text).2 ∧ Fraction point (cutFraction text).1 := by
  unfold cutFraction
  split
  next rest =>
    cases run : rest.takeWhile isDigit with
    | nil => exact ⟨[], rfl, .none⟩
    | cons c digits =>
      refine ⟨'.' :: c :: digits, ?_, .digits ?_⟩
      · rw [← run, if_neg (by simp [run]), List.cons_append, List.takeWhile_append_dropWhile]
      · rw [← run]
        exact fun d member => List.mem_takeWhile_imp member
  · exact ⟨[], rfl, .none⟩

private theorem cutExponentSign_sound (text : Text) :
    ∃ sign, text = sign ++ (cutExponentSign text).2 ∧ ExponentSign sign (cutExponentSign text).1 := by
  unfold cutExponentSign
  split
  · exact ⟨['-'], rfl, .minus⟩
  · exact ⟨['+'], rfl, .plus⟩
  · exact ⟨[], rfl, .none⟩

private theorem cutExponentSign_append {sign : Text} {negative : Bool} (signed : ExponentSign sign negative) {c : Char}
    (digit : isDigit c) (rest : Text) : cutExponentSign (sign ++ c :: rest) = (negative, c :: rest) := by
  cases signed with
  | none =>
    unfold cutExponentSign
    split
    next minus => cases minus; cases digit
    next plus => cases plus; cases digit
    next => rfl
  | plus | minus => rfl

private theorem cutExponent_sound (text : Text) :
    ∃ mark, text = mark ++ (cutExponent text).2 ∧ Exponent mark (cutExponent text).1 := by
  unfold cutExponent
  split
  next letter rest =>
    obtain ⟨sign, split, signed⟩ := cutExponentSign_sound rest
    simp only
    split
    next marked =>
      simp only [Bool.and_eq_true, Bool.or_eq_true, decide_eq_true_eq] at marked
      cases run : (cutExponentSign rest).2.takeWhile isDigit with
      | nil => simp [run] at marked
      | cons c digits =>
        refine ⟨letter :: (sign ++ c :: digits), ?_, .digits marked.1 signed ?_⟩
        · rw [← run, List.cons_append, List.append_assoc, List.takeWhile_append_dropWhile, ← split]
        · rw [← run]
          exact fun d member => List.mem_takeWhile_imp member
    next => exact ⟨[], rfl, .none⟩
  next => exact ⟨[], rfl, .none⟩

private theorem cutExponent_append {mark : Char} {sign digits rest : Text} {negative : Bool} {c : Char}
    (marks : mark = 'e' ∨ mark = 'E') (signed : ExponentSign sign negative) (decimal : ∀ d ∈ c :: digits, isDigit d)
    (ends : EndsDigits rest) :
    cutExponent (mark :: (sign ++ c :: digits ++ rest)) =
      (some (if negative then -(digitsValue (c :: digits) : Int) else digitsValue (c :: digits)), rest) := by
  have letter : (decide (mark = 'e') || decide (mark = 'E')) = true := by simpa using marks
  rw [List.append_assoc, List.cons_append, cutExponent, cutExponentSign_append signed (decimal c List.mem_cons_self),
    ← List.cons_append]
  simp only [takeWhile_digits decimal ends, dropWhile_digits decimal ends, letter, List.isEmpty_cons, Bool.not_false,
    Bool.and_self, if_true]

private theorem cut_of_not_goesOn {rest : Text} (ends : ¬ GoesOn rest) :
    EndsDigits rest ∧ cutFraction rest = ([], rest) ∧ cutExponent rest = (none, rest) := by
  refine ⟨?_, ?_, ?_⟩
  · intro c member
    cases rest with
    | nil => cases member
    | cons d others =>
      cases member
      exact Bool.eq_false_iff.mpr fun digit => ends (.whole digit)
  · obtain ⟨point, split, fraction⟩ := cutFraction_sound rest
    rcases cut : cutFraction rest with ⟨digits, after⟩
    rw [cut] at split fraction
    cases fraction with
    | none => rw [split, List.nil_append]
    | digits decimal => exact absurd (split ▸ .fraction (decimal _ List.mem_cons_self)) ends
  · obtain ⟨mark, split, scale⟩ := cutExponent_sound rest
    rcases cut : cutExponent rest with ⟨exponent, after⟩
    rw [cut] at split scale
    cases scale with
    | none => rw [split, List.nil_append]
    | digits marks signed decimal =>
      rw [List.cons_append, List.append_assoc, List.cons_append] at split
      exact absurd (split ▸ .exponent marks signed (decimal _ List.mem_cons_self)) ends

private theorem not_goesOn_of_cut {rest : Text} (ends : EndsDigits rest) (point : (cutFraction rest).1 = [])
    (scale : (cutExponent (cutFraction rest).2).1 = none) : ¬ GoesOn rest := by
  intro goes
  cases goes with
  | whole digit => exact absurd (digit.symm.trans (ends _ rfl)) (by simp)
  | fraction digit => simp [cutFraction, digit] at point
  | @exponent mark sign negative c rest marks signed digit =>
    have decimal : ∀ d ∈ c :: rest.takeWhile isDigit, isDigit d :=
      List.forall_mem_cons.mpr ⟨digit, fun d member => List.mem_takeWhile_imp member⟩
    have cut := cutExponent_append marks signed decimal (endsDigits_dropWhile rest)
    rw [List.append_assoc, List.cons_append, List.takeWhile_append_dropWhile] at cut
    have noPoint : cutFraction (mark :: (sign ++ c :: rest)) = ([], mark :: (sign ++ c :: rest)) := by
      rcases marks with rfl | rfl <;> rfl
    rw [noPoint, cut] at scale
    cases scale

private theorem cutNumber?_longInteger {word : Text} {digits : Nat} (long : LongInteger word digits) :
    ∃ rest, cutNumber? word = some (.longInteger digits, rest) := by
  cases long with
  | @intro sign negative whole rest signed isWhole long ends =>
    obtain ⟨endsDigits, noPoint, noMark⟩ := cut_of_not_goesOn ends
    refine ⟨rest, ?_⟩
    simp only [cutNumber?, cutSign_append signed isWhole, cutInteger?_append isWhole endsDigits, noPoint, noMark,
      List.isEmpty_nil, Option.isNone_none, Bool.and_self, if_true, if_pos long]

private theorem cutNumber?_int {sign whole : Text} {negative : Bool} (signed : Sign sign negative)
    (isWhole : Whole whole) (short : whole.length ≤ digitLimit) :
    cutNumber? (sign ++ whole) =
      some (.scalar (.int (if negative then -(digitsValue whole : Int) else digitsValue whole)), []) := by
  have cut := cutSign_append signed isWhole []
  have found := @cutInteger?_append whole [] isWhole endsDigits_nil
  rw [List.append_nil] at cut found
  simp only [cutNumber?, cut, found, cutFraction, cutExponent, List.isEmpty_nil, Option.isNone_none, Bool.and_self,
    if_true, if_neg (Nat.not_lt.mpr short)]

private theorem endsDigits_exponent {mark : Text} {exponent : Option Int} (scale : Exponent mark exponent) :
    EndsDigits mark := by
  cases scale with
  | none => exact endsDigits_nil
  | digits marks =>
    rintro letter member
    cases member
    rcases marks with rfl | rfl <;> rfl

private theorem cutFraction_append {point digits mark : Text} {exponent : Option Int} (fraction : Fraction point digits)
    (scale : Exponent mark exponent) : cutFraction (point ++ mark) = (digits, mark) := by
  cases fraction with
  | none =>
    cases scale with
    | none => rfl
    | digits marks => rcases marks with rfl | rfl <;> rfl
  | digits decimal =>
    have ends := endsDigits_exponent scale
    rw [List.cons_append, cutFraction, takeWhile_digits decimal ends, dropWhile_digits decimal ends,
      if_neg (by simp)]

private theorem cutExponent_eq {mark : Text} {exponent : Option Int} (scale : Exponent mark exponent) :
    cutExponent mark = (exponent, []) := by
  cases scale with
  | none => rfl
  | digits marks signed decimal =>
    have cut := @cutExponent_append _ _ _ [] _ _ marks signed decimal endsDigits_nil
    rwa [List.append_nil] at cut

/-- The test for an integer is right. -/
private theorem isInteger_iff {point digits mark : Text} {exponent : Option Int} (fraction : Fraction point digits)
    (scale : Exponent mark exponent) : (digits.isEmpty && exponent.isNone) = true ↔ point ++ mark = [] := by
  cases fraction with
  | none => cases scale <;> simp
  | digits => simp

private theorem cutNumber?_float {sign whole point digits mark : Text} {negative : Bool} {exponent : Option Int}
    (signed : Sign sign negative) (isWhole : Whole whole) (fraction : Fraction point digits)
    (scale : Exponent mark exponent) (isFloat : point ++ mark ≠ []) :
    cutNumber? (sign ++ whole ++ point ++ mark) = some (.scalar (.float
      (Binary64.ofDecimal negative (digitsValue (whole ++ digits)) (exponent.getD 0 - digits.length))), []) := by
  have ends : EndsDigits (point ++ mark) := by
    cases fraction with
    | none => exact endsDigits_exponent scale
    | digits => rintro c member; cases member; rfl
  have proper := mt (isInteger_iff fraction scale).mp isFloat
  rw [List.append_assoc, List.append_assoc]
  simp only [cutNumber?, cutSign_append signed isWhole, cutInteger?_append isWhole ends,
    cutFraction_append fraction scale, cutExponent_eq scale, if_neg proper]

/-- What is cut off the front of a word is written there. A number is all that is written if nothing is left. -/
private theorem cutNumber?_sound {word rest : Text} {token : Token} (cut : cutNumber? word = some (token, rest)) :
    (∃ digits, token = .longInteger digits ∧ LongInteger word digits) ∨
      ∃ value, token = .scalar value ∧ (rest = [] → Literal word value) := by
  obtain ⟨sign, split, signed⟩ := cutSign_sound word
  unfold cutNumber? at cut
  simp only at cut
  generalize (cutSign word).1 = negative at *
  generalize (cutSign word).2 = unsigned at *
  subst split
  split at cut
  next => cases cut
  next whole unread found =>
    obtain ⟨rfl, isWhole, boundary⟩ := cutInteger?_sound found
    obtain ⟨point, afterWhole, fraction⟩ := cutFraction_sound unread
    obtain ⟨mark, afterPoint, scale⟩ := cutExponent_sound (cutFraction unread).2
    have written : unread = point ++ mark ++ (cutExponent (cutFraction unread).2).2 := by
      rw [List.append_assoc, ← afterPoint, ← afterWhole]
    split at cut
    next isInt =>
      split at cut
      next long =>
        cases cut
        have ends : EndsDigits unread := boundary.resolve_left fun zero => by
          rw [zero] at long
          exact absurd long (by decide)
        obtain ⟨noPoint, noMark⟩ := (Bool.and_eq_true_iff ..).mp isInt
        exact .inl ⟨_, rfl, .intro signed isWhole long
          (not_goesOn_of_cut ends (List.isEmpty_iff.mp noPoint) (Option.isNone_iff_eq_none.mp noMark))⟩
      next short =>
        cases cut
        refine .inr ⟨_, rfl, fun ended => ?_⟩
        rw [written, (isInteger_iff fraction scale).mp isInt, ended, List.append_nil, List.append_nil]
        exact .int signed isWhole (Nat.not_lt.mp short)
    next isFloat =>
      cases cut
      refine .inr ⟨_, rfl, fun ended => ?_⟩
      have word : sign ++ (whole ++ unread) = sign ++ whole ++ point ++ mark := by
        rw [written, ended, List.append_nil, List.append_assoc, List.append_assoc]
      rw [word]
      exact .float signed isWhole fraction scale (mt (isInteger_iff fraction scale).mpr isFloat)

/-- What a word may be taken for. -/
inductive TakenFor (word : Text) : List Token → Prop where
  | literal {value} (literal : Literal word value) : TakenFor word [.scalar value]
  | long {digits rest} (long : LongInteger word digits) : TakenFor word (.longInteger digits :: rest)
  | excess (value) : TakenFor word [.scalar value, .malformed]
  | malformed : TakenFor word [.malformed]

theorem takenFor_wordTokens (word : Text) : TakenFor word (wordTokens word) := by
  unfold wordTokens
  split
  next name => rw [name]; exact .literal .null
  split
  next name => rw [name]; exact .literal .yes
  split
  next name => rw [name]; exact .literal .no
  split
  next name => rw [name]; exact .literal .notANumber
  split
  next name => rw [name]; exact .literal (.infinity .none)
  split
  next name => rw [name]; exact .literal (.infinity .minus)
  split
  next => exact .malformed
  next token cut =>
    rcases cutNumber?_sound cut with ⟨digits, rfl, long⟩ | ⟨value, rfl, literal⟩
    · exact .long long
    · exact .literal (literal rfl)
  next token c rest cut =>
    rcases cutNumber?_sound cut with ⟨digits, rfl, long⟩ | ⟨value, rfl, -⟩
    · exact .long long
    · exact .excess value

/-- No named value begins with a number. -/
private theorem wordTokens_of_cut {word rest : Text} {token : Token} (cut : cutNumber? word = some (token, rest)) :
    wordTokens word = token :: if rest = [] then [] else [.malformed] := by
  have other : ∀ {name}, cutNumber? name = none → word ≠ name := by
    rintro name none rfl
    rw [none] at cut
    cases cut
  rw [wordTokens, if_neg (other rfl), if_neg (other rfl), if_neg (other rfl), if_neg (other rfl), if_neg (other rfl),
    if_neg (other rfl), cut]
  cases rest <;> rfl

theorem wordTokens_literal {word : Text} {value : Value} (literal : Literal word value) :
    wordTokens word = [.scalar value] := by
  cases literal with
  | null | yes | no | notANumber => rfl
  | infinity signed => cases signed <;> rfl
  | int signed isWhole short => exact wordTokens_of_cut (cutNumber?_int signed isWhole short)
  | float signed isWhole fraction scale isFloat =>
    exact wordTokens_of_cut (cutNumber?_float signed isWhole fraction scale isFloat)

theorem wordTokens_longInteger {word : Text} {digits : Nat} (long : LongInteger word digits) :
    ∃ rest, wordTokens word = .longInteger digits :: rest := by
  obtain ⟨rest, cut⟩ := cutNumber?_longInteger long
  exact ⟨_, wordTokens_of_cut cut⟩

/-- What the lexer does with a character that may end a word, and that no other does it. -/
theorem delimiter?_cases (c : Char) :
    (isSpace c = true ∧ delimiter? c = some (.between, [])) ∨
      (∃ token, Mark c token ∧ delimiter? c = some (.between, [token])) ∨
      (c = '"' ∧ delimiter? c = some (.text [], [])) ∨ (¬ Delimits c ∧ delimiter? c = none) := by
  unfold delimiter?
  split
  next space => exact .inl ⟨space, rfl⟩
  next space =>
    split
    · exact .inr (.inl ⟨_, .openList, rfl⟩)
    · exact .inr (.inl ⟨_, .closeList, rfl⟩)
    · exact .inr (.inl ⟨_, .openObject, rfl⟩)
    · exact .inr (.inl ⟨_, .closeObject, rfl⟩)
    · exact .inr (.inl ⟨_, .comma, rfl⟩)
    · exact .inr (.inl ⟨_, .colon, rfl⟩)
    · exact .inr (.inr (.inl ⟨rfl, rfl⟩))
    next quote =>
      refine .inr (.inr (.inr ⟨?_, rfl⟩))
      rintro (blank | rfl | ⟨token, marks⟩)
      · exact space blank
      · exact quote rfl
      · cases marks <;> contradiction

theorem delimits_iff {c : Char} : Delimits c ↔ (delimiter? c).isSome := by
  rcases delimiter?_cases c with ⟨space, found⟩ | ⟨token, marks, found⟩ | ⟨quote, found⟩ | ⟨other, found⟩
  · exact iff_of_true (.inl space) (by rw [found]; rfl)
  · exact iff_of_true (.inr (.inr ⟨token, marks⟩)) (by rw [found]; rfl)
  · exact iff_of_true (.inr (.inl quote)) (by rw [found]; rfl)
  · exact iff_of_false other (by rw [found]; exact Bool.false_ne_true)

instance : DecidablePred Delimits :=
  fun _ => decidable_of_iff _ delimits_iff.symm

def IsWord (text : Text) : Prop :=
  ∀ c ∈ text, ¬ Delimits c

instance (text : Text) : Decidable (IsWord text) :=
  List.decidableBAll (fun c => ¬ Delimits c) text

private theorem isWord_digits {digits : Text} (decimal : ∀ c ∈ digits, isDigit c) : IsWord digits := by
  rintro c member (space | rfl | ⟨token, marks⟩)
  · have digit := decimal c member
    simp only [isSpace, Bool.or_eq_true, decide_eq_true_eq] at space
    rcases space with ((rfl | rfl) | rfl) | rfl <;> cases digit
  · cases decimal _ member
  · have digit := decimal c member
    cases marks <;> cases digit

theorem IsWord.append {front back : Text} (first : IsWord front) (second : IsWord back) : IsWord (front ++ back) :=
  List.forall_mem_append.mpr ⟨first, second⟩

theorem IsWord.cons {c : Char} {rest : Text} (inside : ¬ Delimits c) (others : IsWord rest) : IsWord (c :: rest) :=
  List.forall_mem_cons.mpr ⟨inside, others⟩

theorem Whole.isWord {whole : Text} (isWhole : Whole whole) : IsWord whole :=
  isWord_digits isWhole.decimal.2

theorem Sign.isWord {sign : Text} {negative : Bool} (signed : Sign sign negative) : IsWord sign := by
  cases signed <;> decide

theorem Fraction.isWord {point digits : Text} (fraction : Fraction point digits) : IsWord point := by
  cases fraction with
  | none => decide
  | digits decimal => exact .cons (by decide) (isWord_digits decimal)

theorem Exponent.isWord {mark : Text} {exponent : Option Int} (scale : Exponent mark exponent) : IsWord mark := by
  cases scale with
  | none => decide
  | digits marks signed decimal =>
    refine .cons ?_ (.append ?_ (isWord_digits decimal))
    · rcases marks with rfl | rfl <;> decide
    · cases signed <;> decide

theorem Literal.isWord {word : Text} {value : Value} (literal : Literal word value) : IsWord word := by
  cases literal with
  | null | yes | no | notANumber => decide
  | infinity signed => exact signed.isWord.append (by decide)
  | int signed isWhole => exact signed.isWord.append isWhole.isWord
  | float signed isWhole fraction scale =>
    exact ((signed.isWord.append isWhole.isWord).append fraction.isWord).append scale.isWord

end Json

end VDiagnostics
