import VDiagnostics.Proofs.JsonWords

/-! The lexer takes just the tokens that are written in a text, up to the first that is malformed. It takes a
word where the word ends and a text at the quote that ends it. -/

namespace VDiagnostics

namespace Json

private theorem tokens_word {word : Text} (isWord : IsWord word) (reversed : Text) {rest : Text}
    (ends : EndsWord rest) :
    tokens (.word reversed) (word ++ rest) = wordTokens (reversed.reverse ++ word) ++ tokens .between rest := by
  induction word generalizing reversed with
  | nil =>
    cases rest with
    | nil => simp [tokens, finish]
    | cons c rest =>
      obtain ⟨⟨next, completed⟩, delimits⟩ := Option.isSome_iff_exists.mp (delimits_iff.mp (ends c rfl))
      simp [tokens, advance, delimits]
  | cons c word ih =>
    obtain ⟨inside, isWord⟩ := List.forall_mem_cons.mp isWord
    have other : delimiter? c = none := Option.not_isSome_iff_eq_none.mp (mt delimits_iff.mpr inside)
    rw [List.cons_append, tokens, advance, other, ih isWord]
    simp

theorem tokens_between_word {word : Text} (isWord : IsWord word) (some : word ≠ []) {rest : Text}
    (ends : EndsWord rest) : tokens .between (word ++ rest) = wordTokens word ++ tokens .between rest := by
  obtain ⟨c, others, rfl⟩ := List.exists_cons_of_ne_nil some
  obtain ⟨inside, isWord⟩ := List.forall_mem_cons.mp isWord
  have other : delimiter? c = none := Option.not_isSome_iff_eq_none.mp (mt delimits_iff.mpr inside)
  rw [List.cons_append, tokens, advance, other]
  exact tokens_word isWord [c] ends

/-! Texts between quotes. -/

private theorem tokens_short (reversed : CodePoints) {c : Char} (other : c ≠ 'u') (rest : Text) :
    tokens (.escape reversed) (c :: rest) =
      match escaped? c with
      | none => .malformed :: tokens .between rest
      | some character => tokens (.text (.char character :: reversed)) rest := by
  rw [tokens, advance, if_neg other]
  cases escaped? c <;> rfl

private theorem tokens_hex {c : Char} {digit : Nat} (isDigit : hexValue? c = some digit) (reversed : CodePoints)
    (missing value : Nat) (rest : Text) :
    tokens (.code reversed missing value) (c :: rest) =
      tokens (if missing ≤ 1 then .text (.ofUnit (16 * value + digit) :: reversed)
        else .code reversed (missing - 1) (16 * value + digit)) rest := by
  rw [tokens, advance, isDigit]
  simp only
  split <;> rfl

theorem Escape.tokens {front : Text} {point : CodePoint} (escaped : Escape front point) (reversed : CodePoints)
    (rest : Text) : tokens (.escape reversed) (front ++ rest) = tokens (.text (point :: reversed)) rest := by
  cases escaped with
  | @short c character found =>
    have other : c ≠ 'u' := by
      rintro rfl
      cases found
    rw [List.singleton_append, tokens_short _ other, found]
  | @code a b c d w x y z first second third fourth =>
    calc Json.tokens (.escape reversed) ('u' :: a :: b :: c :: d :: rest)
        = Json.tokens (.code reversed 4 0) (a :: b :: c :: d :: rest) := rfl
      _ = Json.tokens (.text (.ofUnit (16 * (16 * (16 * w + x) + y) + z) :: reversed)) rest := by
        simp [tokens_hex first, tokens_hex second, tokens_hex third, tokens_hex fourth]

theorem Quoted.tokens {body : Text} {points : CodePoints} (quoted : Quoted body points) (reversed : CodePoints)
    (after : Text) : tokens (.text reversed) (body ++ '"' :: after) =
      .text (CodePoints.join (reversed.reverse ++ points)) :: tokens .between after := by
  induction quoted generalizing reversed with
  | nil => simp [Json.tokens, advance]
  | plain quote backslash printed _ ih =>
    rw [List.cons_append, Json.tokens, advance, if_neg quote, if_neg backslash, if_neg (Nat.not_lt.mpr printed), ih]
    simp
  | @escape front point rest points escaped _ ih =>
    calc Json.tokens (.text reversed) ('\\' :: (front ++ rest) ++ '"' :: after)
        = Json.tokens (.escape reversed) (front ++ rest ++ '"' :: after) := rfl
      _ = .text (CodePoints.join ((point :: reversed).reverse ++ points)) :: Json.tokens .between after := by
        rw [List.append_assoc, escaped.tokens, ih]
      _ = .text (CodePoints.join (reversed.reverse ++ point :: points)) :: Json.tokens .between after := by
        rw [List.reverse_cons, List.append_assoc, List.singleton_append]

section

variable {text : Text} {reversed : CodePoints} {token : Token} {later : List Token}

private theorem hex_of_tokens {missing value : Nat}
    (taken : tokens (.code reversed missing value) text = token :: later)
    (proper : token ≠ .malformed) : ∃ c digit rest, text = c :: rest ∧ hexValue? c = some digit ∧
      tokens (if missing ≤ 1 then .text (.ofUnit (16 * value + digit) :: reversed)
        else .code reversed (missing - 1) (16 * value + digit)) rest = token :: later := by
  cases text with
  | nil =>
    cases taken
    exact absurd rfl proper
  | cons c rest =>
    cases isDigit : hexValue? c with
    | some digit => exact ⟨c, digit, rest, rfl, isDigit, (tokens_hex isDigit ..).symm.trans taken⟩
    | none =>
      rw [tokens, advance, isDigit] at taken
      cases taken
      exact absurd rfl proper

private theorem escape_of_tokens (taken : tokens (.escape reversed) text = token :: later)
    (proper : token ≠ .malformed) :
    ∃ front point rest, text = front ++ rest ∧ Escape front point ∧
      tokens (.text (point :: reversed)) rest = token :: later := by
  cases text with
  | nil =>
    cases taken
    exact absurd rfl proper
  | cons c rest =>
    by_cases code : c = 'u'
    · subst code
      obtain ⟨a, w, _, rfl, first, taken⟩ := hex_of_tokens taken proper
      obtain ⟨b, x, _, rfl, second, taken⟩ := hex_of_tokens taken proper
      obtain ⟨c, y, _, rfl, third, taken⟩ := hex_of_tokens taken proper
      obtain ⟨d, z, rest, rfl, fourth, taken⟩ := hex_of_tokens taken proper
      exact ⟨_, _, rest, rfl, .code first second third fourth, by simpa using taken⟩
    · rw [tokens_short _ code] at taken
      cases found : escaped? c with
      | none =>
        rw [found] at taken
        exact absurd (List.cons.inj taken).1.symm proper
      | some character =>
        rw [found] at taken
        exact ⟨[c], _, rest, rfl, .short found, taken⟩

/-- A text ends at its quote, and up to there it is quoted. -/
theorem quoted_of_tokens (taken : tokens (.text reversed) text = token :: later) (proper : token ≠ .malformed) :
    ∃ body points after, text = body ++ '"' :: after ∧ Quoted body points ∧
      token = .text (CodePoints.join (reversed.reverse ++ points)) ∧ tokens .between after = later := by
  induction size : text.length using Nat.strongRecOn generalizing text reversed with
  | ind n ih =>
    have further : ∀ {point rest}, rest.length < text.length →
        tokens (.text (point :: reversed)) rest = token :: later →
        ∃ body points after, rest = body ++ '"' :: after ∧ Quoted body points ∧
          token = .text (CodePoints.join (reversed.reverse ++ point :: points)) ∧ tokens .between after = later := by
      intro point rest shorter taken
      obtain ⟨body, points, after, split, quoted, written, left⟩ := ih _ (size ▸ shorter) taken rfl
      rw [List.reverse_cons, List.append_assoc, List.singleton_append] at written
      exact ⟨body, points, after, split, quoted, written, left⟩
    cases text with
    | nil =>
      cases taken
      exact absurd rfl proper
    | cons c rest =>
      rw [tokens, advance] at taken
      by_cases quote : c = '"'
      · subst quote
        cases taken
        exact ⟨[], [], rest, rfl, .nil, by rw [List.append_nil], rfl⟩
      by_cases backslash : c = '\\'
      · subst backslash
        obtain ⟨front, point, rest, rfl, escaped, taken⟩ := escape_of_tokens taken proper
        have shorter : rest.length < ('\\' :: (front ++ rest)).length := by
          simp only [List.length_cons, List.length_append]
          omega
        obtain ⟨body, points, after, rfl, quoted, written, left⟩ := further shorter taken
        exact ⟨'\\' :: (front ++ body), _, after, by simp, .escape escaped quoted, written, left⟩
      · rw [if_neg quote, if_neg backslash] at taken
        by_cases control : c.toNat < 0x20
        · rw [if_pos control] at taken
          exact absurd (List.cons.inj taken).1.symm proper
        · rw [if_neg control] at taken
          obtain ⟨body, points, after, rfl, quoted, written, left⟩ := further (Nat.lt_succ_self _) taken
          exact ⟨_, _, after, rfl, .plain quote backslash (Nat.not_lt.mp control) quoted, written, left⟩

end

/-! Whole texts. -/

/-- How the tokens of a text begin. -/
inductive Starts : Text → List Token → Prop where
  | blank {c rest} (space : isSpace c) : Starts (c :: rest) (tokens .between rest)
  | mark {c token rest} (marks : Mark c token) : Starts (c :: rest) (token :: tokens .between rest)
  | quote {rest} : Starts ('"' :: rest) (tokens (.text []) rest)
  | word {word rest written} (isWord : IsWord word) (some : word ≠ []) (ends : EndsWord rest)
      (taken : TakenFor word written) : Starts (word ++ rest) (written ++ tokens .between rest)

private theorem exists_word (text : Text) : ∃ word rest, text = word ++ rest ∧ IsWord word ∧ EndsWord rest := by
  induction text with
  | nil => exact ⟨[], [], rfl, List.forall_mem_nil _, endsWord_nil⟩
  | cons c rest ih =>
    by_cases delimits : Delimits c
    · refine ⟨[], c :: rest, rfl, List.forall_mem_nil _, ?_⟩
      rintro d member
      cases member
      exact delimits
    · obtain ⟨word, after, rfl, isWord, ends⟩ := ih
      exact ⟨c :: word, after, rfl, .cons delimits isWord, ends⟩

theorem starts_tokens {text : Text} (some : text ≠ []) : Starts text (tokens .between text) := by
  obtain ⟨c, rest, rfl⟩ := List.exists_cons_of_ne_nil some
  have begins : tokens .between (c :: rest) =
      (advance .between c).2 ++ tokens (advance .between c).1 rest := rfl
  rcases delimiter?_cases c with ⟨space, found⟩ | ⟨token, marks, found⟩ | ⟨rfl, found⟩ | ⟨inside, found⟩
  · rw [begins, advance, found]
    exact .blank space
  · rw [begins, advance, found]
    exact .mark marks
  · exact .quote
  · obtain ⟨word, after, rfl, isWord, ends⟩ := exists_word rest
    have whole : IsWord (c :: word) := .cons inside isWord
    rw [← List.cons_append, tokens_between_word whole (List.cons_ne_nil _ _) ends]
    exact .word whole (List.cons_ne_nil _ _) ends (takenFor_wordTokens _)

private theorem tokens_blank {c : Char} (space : isSpace c = true) (rest : Text) :
    tokens .between (c :: rest) = tokens .between rest := by
  have found : delimiter? c = some (.between, []) := if_pos space
  rw [tokens, advance, found]
  rfl

theorem tokens_mark {c : Char} {token : Token} (marks : Mark c token) (rest : Text) :
    tokens .between (c :: rest) = token :: tokens .between rest := by
  cases marks <;> rfl

/-- The lexer takes what is written. -/
theorem Lexes.tokens {text left : Text} {written : List Token} (lexes : Lexes text written left) :
    tokens .between text = written ++ tokens .between left := by
  induction lexes with
  | done => rfl
  | blank space _ ih => rw [tokens_blank space, ih]
  | mark marks _ ih => rw [tokens_mark marks, ih, List.cons_append]
  | @text body points value rest written left quoted joins _ ih =>
    obtain rfl := CodePoints.joins_iff.mp joins
    calc Json.tokens .between ('"' :: (body ++ '"' :: rest))
        = Json.tokens (.text []) (body ++ '"' :: rest) := rfl
      _ = .text points.join :: Json.tokens .between rest := quoted.tokens [] rest
      _ = .text points.join :: written ++ Json.tokens .between left := by rw [ih, List.cons_append]
  | @word word value rest written left literal ends _ ih =>
    have some : word ≠ [] := by
      rintro rfl
      cases wordTokens_literal literal
    rw [tokens_between_word literal.isWord some ends, wordTokens_literal literal, ih, List.singleton_append,
      List.cons_append]

/-- A token that is well formed and can be kept. -/
def Token.IsProper : Token → Prop
  | .malformed | .longInteger _ => False
  | _ => True

private theorem isSpace_mark {c : Char} {token : Token} (marks : Mark c token) : isSpace c = false := by
  cases marks <;> rfl

/-- A word is a literal if its token is well formed and something malformed does not follow it. -/
theorem TakenFor.literal_of_proper {word : Text} {taken rest later others : List Token} {first : Token}
    (takenFor : TakenFor word taken) (same : taken ++ rest = first :: (others ++ later))
    (proper : ∀ token ∈ first :: others, token.IsProper) (next : later.head? ≠ some .malformed) :
    ∃ value, first = .scalar value ∧ Literal word value ∧ rest = others ++ later := by
  obtain ⟨fine, othersFine⟩ := List.forall_mem_cons.mp proper
  cases takenFor with
  | literal literal =>
    obtain ⟨rfl, follows⟩ := List.cons.inj same
    exact ⟨_, rfl, literal, follows⟩
  | long | malformed =>
    obtain ⟨rfl, -⟩ := List.cons.inj same
    exact fine.elim
  | excess value =>
    obtain ⟨-, follows⟩ := List.cons.inj same
    cases others with
    | nil =>
      have malformed : .malformed :: rest = later := follows
      exact absurd (malformed ▸ rfl) next
    | cons second more =>
      obtain ⟨rfl, -⟩ := List.cons.inj follows
      exact (othersFine _ List.mem_cons_self).elim

/-- What the lexer takes is written, up to any token that is well formed. -/
theorem lexes_of_tokens {text : Text} {written later : List Token} (taken : tokens .between text = written ++ later)
    (proper : ∀ token ∈ written, token.IsProper) (next : later.head? ≠ some .malformed) :
    ∃ left, Lexes text written left ∧ tokens .between left = later ∧ ∀ c ∈ left.head?, isSpace c = false := by
  induction size : text.length using Nat.strongRecOn generalizing text written with
  | ind n ih =>
    by_cases empty : text = []
    · subst empty
      obtain ⟨rfl, rfl⟩ := List.append_eq_nil_iff.mp taken.symm
      exact ⟨[], .done [], rfl, by simp⟩
    have starts := starts_tokens empty
    generalize seen : tokens .between text = tokens at starts
    have same : tokens = written ++ later := seen.symm.trans taken
    cases starts with
    | blank space =>
      obtain ⟨left, lexes, ended⟩ := ih _ (by rw [← size]; exact Nat.lt_succ_self _) same proper rfl
      exact ⟨left, .blank space lexes, ended⟩
    | @mark c token rest marks =>
      cases written with
      | nil => exact ⟨c :: rest, .done _, taken, by simpa using isSpace_mark marks⟩
      | cons first others =>
        obtain ⟨rfl, follows⟩ := List.cons.inj same
        obtain ⟨left, lexes, ended⟩ := ih _ (by rw [← size]; exact Nat.lt_succ_self _) follows
          (List.forall_mem_cons.mp proper).2 rfl
        exact ⟨left, .mark marks lexes, ended⟩
    | @quote rest =>
      cases written with
      | nil => exact ⟨'"' :: rest, .done _, taken, by simp [isSpace]⟩
      | cons first others =>
        obtain ⟨fine, othersFine⟩ := List.forall_mem_cons.mp proper
        have whole : first ≠ .malformed := by
          rintro rfl
          exact fine
        obtain ⟨body, points, after, rfl, quoted, rfl, follows⟩ := quoted_of_tokens same whole
        have shorter : after.length < n := by
          rw [← size]
          simp only [List.length_cons, List.length_append]
          omega
        obtain ⟨left, lexes, ended⟩ := ih _ shorter follows othersFine rfl
        exact ⟨left, .text quoted (CodePoints.joins_iff.mpr rfl) lexes, ended⟩
    | @word word rest cut isWord some ends takenFor =>
      cases written with
      | nil =>
        refine ⟨word ++ rest, .done _, taken, ?_⟩
        obtain ⟨c, others, rfl⟩ := List.exists_cons_of_ne_nil some
        rintro d member
        cases member
        exact Bool.eq_false_iff.mpr fun space => isWord c List.mem_cons_self (.inl space)
      | cons first others =>
        obtain ⟨value, rfl, literal, follows⟩ := takenFor.literal_of_proper same proper next
        have shorter : rest.length < n := by
          have longer := List.length_pos_iff.mpr some
          rw [← size, List.length_append]
          omega
        obtain ⟨left, lexes, ended⟩ := ih _ shorter follows (List.forall_mem_cons.mp proper).2 rfl
        exact ⟨left, .word literal ends lexes, ended⟩

theorem TakenFor.ne_nil {word : Text} {written : List Token} (taken : TakenFor word written) : written ≠ [] := by
  cases taken <;> exact List.cons_ne_nil _ _

/-- Between tokens the lexer has given one for all that it has read. -/
private theorem advance_ne_between {mode : Mode} (inside : mode ≠ .between) {c : Char}
    (none : (advance mode c).2 = []) :
    (advance mode c).1 ≠ .between := by
  cases mode with
  | between => exact absurd rfl inside
  | word reversed =>
    rw [advance] at none ⊢
    cases found : delimiter? c with
    | none => simp
    | some next =>
      rw [found] at none
      exact absurd (List.append_eq_nil_iff.mp none).1 (takenFor_wordTokens _).ne_nil
  | text reversed =>
    rw [advance] at none ⊢
    split_ifs at none ⊢ <;> simp
  | escape reversed =>
    rw [advance] at none ⊢
    split at none
    · simp_all
    · cases found : escaped? c <;> simp_all
  | code reversed missing value =>
    rw [advance] at none ⊢
    cases found : hexValue? c with
    | none => rw [found] at none; cases none
    | some digit => simp only; split <;> simp

private theorem tokens_ne_nil {mode : Mode} (inside : mode ≠ .between) (text : Text) : tokens mode text ≠ [] := by
  induction text generalizing mode with
  | nil =>
    cases mode with
    | between => exact absurd rfl inside
    | word reversed => exact (takenFor_wordTokens _).ne_nil
    | _ => exact List.cons_ne_nil _ _
  | cons c rest ih =>
    intro none
    obtain ⟨noToken, noMore⟩ := List.append_eq_nil_iff.mp none
    exact ih (advance_ne_between inside noToken) noMore

/-- A whole text is written as just those well formed tokens that the lexer takes. -/
theorem lexes_iff {text : Text} {written : List Token} (proper : ∀ token ∈ written, token.IsProper) :
    Lexes text written [] ↔ tokens .between text = written := by
  constructor
  · intro lexes
    rw [lexes.tokens]
    exact List.append_nil _
  · intro taken
    rw [← List.append_nil written] at taken
    obtain ⟨left, lexes, none, ended⟩ := lexes_of_tokens taken proper (by simp)
    have emptied : left = [] := by
      by_contra some
      have starts := starts_tokens some
      rw [none] at starts
      generalize seen : ([] : List Token) = tokens at starts
      cases starts with
      | blank space => exact absurd space (Bool.eq_false_iff.mp (ended _ rfl))
      | mark => cases seen
      | quote => exact tokens_ne_nil (by simp) _ seen.symm
      | word _ _ _ takenFor => exact takenFor.ne_nil (List.append_eq_nil_iff.mp seen.symm).1
    exact emptied ▸ lexes

end Json

end VDiagnostics
