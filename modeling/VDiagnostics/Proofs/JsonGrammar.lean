import VDiagnostics.Proofs.Numerals
import VDiagnostics.Proofs.SurrogatePairs
import VDiagnostics.Settings.Json.Token

/-! How tokens are written in characters. Blanks may stand before a token, a token may be written in several
ways, and a word has to be followed by a delimiter or the end of the text. -/

namespace VDiagnostics

namespace Json

/-- At least one digit, and no needless zero in front. -/
inductive Whole : Text → Prop where
  | zero : Whole ['0']
  | digits {c rest} (leads : c ≠ '0') (decimal : ∀ d ∈ c :: rest, isDigit d) : Whole (c :: rest)

inductive Sign : Text → Bool → Prop where
  | none : Sign [] false
  | minus : Sign ['-'] true

inductive ExponentSign : Text → Bool → Prop where
  | none : ExponentSign [] false
  | plus : ExponentSign ['+'] false
  | minus : ExponentSign ['-'] true

/-- A point and the digits after it, or nothing. -/
inductive Fraction : Text → Text → Prop where
  | none : Fraction [] []
  | digits {c rest} (decimal : ∀ d ∈ c :: rest, isDigit d) : Fraction ('.' :: c :: rest) (c :: rest)

inductive Exponent : Text → Option Int → Prop where
  | none : Exponent [] none
  | digits {mark sign negative c rest} (marks : mark = 'e' ∨ mark = 'E') (signed : ExponentSign sign negative)
      (decimal : ∀ d ∈ c :: rest, isDigit d) :
      Exponent (mark :: (sign ++ c :: rest))
        (some (if negative then -(digitsValue (c :: rest) : Int) else digitsValue (c :: rest)))

/-- What a word stands for. A number is a float just if it has a fraction or an exponent. -/
inductive Literal : Text → Value → Prop where
  | null : Literal ['n', 'u', 'l', 'l'] .null
  | yes : Literal ['t', 'r', 'u', 'e'] (.bool true)
  | no : Literal ['f', 'a', 'l', 's', 'e'] (.bool false)
  | notANumber : Literal ['N', 'a', 'N'] (.float Binary64.notANumber)
  | infinity {sign negative} (signed : Sign sign negative) :
      Literal (sign ++ ['I', 'n', 'f', 'i', 'n', 'i', 't', 'y']) (.float (Binary64.infinity negative))
  | int {sign negative whole} (signed : Sign sign negative) (isWhole : Whole whole)
      (short : whole.length ≤ digitLimit) :
      Literal (sign ++ whole) (.int (if negative then -(digitsValue whole : Int) else digitsValue whole))
  | float {sign negative whole point digits mark exponent} (signed : Sign sign negative) (isWhole : Whole whole)
      (fraction : Fraction point digits) (scale : Exponent mark exponent) (isFloat : point ++ mark ≠ []) :
      Literal (sign ++ whole ++ point ++ mark)
        (.float (Binary64.ofDecimal negative (digitsValue (whole ++ digits)) (exponent.getD 0 - digits.length)))

/-- A number goes on with a digit, and with a point or an exponent mark that digits follow. -/
inductive GoesOn : Text → Prop where
  | whole {c rest} (digit : isDigit c) : GoesOn (c :: rest)
  | fraction {c rest} (digit : isDigit c) : GoesOn ('.' :: c :: rest)
  | exponent {mark sign negative c rest} (marks : mark = 'e' ∨ mark = 'E') (signed : ExponentSign sign negative)
      (digit : isDigit c) : GoesOn (mark :: (sign ++ c :: rest))

/-- A word that begins with an integer of too many digits. -/
inductive LongInteger : Text → Nat → Prop where
  | intro {sign negative whole rest} (signed : Sign sign negative) (isWhole : Whole whole)
      (long : digitLimit < whole.length) (ends : ¬ GoesOn rest) : LongInteger (sign ++ (whole ++ rest)) whole.length

/-- What may follow a backslash, and the code point that it stands for. -/
inductive Escape : Text → CodePoint → Prop where
  | short {c character} (found : escaped? c = some character) : Escape [c] (.char character)
  | code {a b c d w x y z} (first : hexValue? a = some w) (second : hexValue? b = some x)
      (third : hexValue? c = some y) (fourth : hexValue? d = some z) :
      Escape ['u', a, b, c, d] (.ofUnit (16 * (16 * (16 * w + x) + y) + z))

/-- What may stand between quotes, and the code points that it stands for while pairs are apart. -/
inductive Quoted : Text → CodePoints → Prop where
  | nil : Quoted [] []
  | plain {c rest points} (quote : c ≠ '"') (backslash : c ≠ '\\') (printed : 0x20 ≤ c.toNat)
      (quoted : Quoted rest points) : Quoted (c :: rest) (.char c :: points)
  | escape {front point rest points} (escaped : Escape front point) (quoted : Quoted rest points) :
      Quoted ('\\' :: (front ++ rest)) (point :: points)

inductive Mark : Char → Token → Prop where
  | openList : Mark '[' .openList
  | closeList : Mark ']' .closeList
  | openObject : Mark '\x7b' .openObject
  | closeObject : Mark '\x7d' .closeObject
  | comma : Mark ',' .comma
  | colon : Mark ':' .colon

def Delimits (c : Char) : Prop :=
  isSpace c ∨ c = '"' ∨ ∃ token, Mark c token

/-- Nothing here goes on with a word. -/
def EndsWord (rest : Text) : Prop :=
  ∀ c ∈ rest.head?, Delimits c

/-- These tokens are written at the front of a text, and the rest is left. -/
inductive Lexes : Text → List Token → Text → Prop where
  | done (rest) : Lexes rest [] rest
  | blank {c rest written left} (space : isSpace c) (lexes : Lexes rest written left) :
      Lexes (c :: rest) written left
  | mark {c token rest written left} (marks : Mark c token) (lexes : Lexes rest written left) :
      Lexes (c :: rest) (token :: written) left
  | text {body points value rest written left} (quoted : Quoted body points) (joins : points.Joins value)
      (lexes : Lexes rest written left) : Lexes ('"' :: (body ++ '"' :: rest)) (.text value :: written) left
  | word {word value rest written left} (literal : Literal word value) (ends : EndsWord rest)
      (lexes : Lexes rest written left) : Lexes (word ++ rest) (.scalar value :: written) left

theorem endsWord_nil : EndsWord [] := by
  simp [EndsWord]

theorem EndsWord.append {front back : Text} (first : EndsWord front) (second : EndsWord back) :
    EndsWord (front ++ back) := by
  cases front with
  | nil => exact second
  | cons c rest => exact first

namespace Lexes

theorem trans {first second third : Text} {written later : List Token} (front : Lexes first written second)
    (back : Lexes second later third) : Lexes first (written ++ later) third := by
  induction front with
  | done => exact back
  | blank space _ ih => exact .blank space (ih back)
  | mark marks _ ih => exact .mark marks (ih back)
  | text quoted joins _ ih => exact .text quoted joins (ih back)
  | word literal ends _ ih => exact .word literal ends (ih back)

/-- More may stand behind, unless it goes on with a word. -/
theorem append {front left : Text} {written : List Token} (lexes : Lexes front written left) {rest : Text}
    (ends : EndsWord rest) : Lexes (front ++ rest) written (left ++ rest) := by
  induction lexes with
  | done => exact .done _
  | blank space _ ih => exact .blank space ih
  | mark marks _ ih => exact .mark marks ih
  | text quoted joins _ ih =>
    rw [List.cons_append, List.append_assoc, List.cons_append]
    exact .text quoted joins ih
  | word literal ended _ ih =>
    rw [List.append_assoc]
    exact .word literal (ended.append ends) ih

end Lexes

/-- A text that stands for some tokens, whatever comes after it. -/
def Stands (text : Text) (written : List Token) : Prop :=
  ∀ rest, Lexes (text ++ rest) written rest

/-- A text that stands for some tokens, unless a word goes on after it. -/
def StandsBefore (text : Text) (written : List Token) : Prop :=
  ∀ rest, EndsWord rest → Lexes (text ++ rest) written rest

theorem Stands.append {first second : Text} {written later : List Token} (front : Stands first written)
    (back : Stands second later) : Stands (first ++ second) (written ++ later) := by
  intro rest
  rw [List.append_assoc]
  exact (front _).trans (back rest)

theorem Stands.before {text : Text} {written : List Token} (stands : Stands text written) :
    StandsBefore text written :=
  fun rest _ => stands rest

/-- A delimiter lets a word end. -/
theorem StandsBefore.append {first second : Text} {written later : List Token} (front : StandsBefore first written)
    (back : StandsBefore second later) (ended : EndsWord second) :
    StandsBefore (first ++ second) (written ++ later) := by
  intro rest ends
  rw [List.append_assoc]
  exact (front _ (ended.append ends)).trans (back rest ends)

theorem Whole.decimal {whole : Text} (isWhole : Whole whole) : whole ≠ [] ∧ ∀ c ∈ whole, isDigit c := by
  cases isWhole with
  | zero => exact ⟨List.cons_ne_nil _ _, List.forall_mem_singleton.mpr rfl⟩
  | digits _ decimal => exact ⟨List.cons_ne_nil _ _, decimal⟩

theorem Whole.length_ofNat {whole : Text} (isWhole : Whole whole) :
    (Text.ofNat (digitsValue whole)).length ≤ whole.length := by
  rw [digitsValue, ← Text.digitsValue_ascii isWhole.decimal.2]
  exact Text.length_ofNat_digitsValue isWhole.decimal.1

/-- Values that have literals. -/
def IsAtom : Value → Prop
  | .int number => Coordinate.IsShort number
  | .null | .bool _ | .float _ => True
  | .text _ | .list _ | .object _ => False

theorem Literal.isAtom {word : Text} {value : Value} (literal : Literal word value) : IsAtom value := by
  cases literal with
  | @int sign negative whole signed isWhole short =>
    have size : (if negative then -(digitsValue whole : Int) else digitsValue whole).natAbs = digitsValue whole := by
      cases negative <;> simp
    rw [IsAtom, Coordinate.IsShort, size]
    exact isWhole.length_ofNat.trans short
  | _ => trivial

/-- A token has a value of its own only if the value has literals, and the pairs in a text are joined. -/
def Token.IsPlain : Token → Prop
  | .scalar value => IsAtom value
  | .text value => value.IsJoined
  | _ => True

theorem Lexes.isPlain {text left : Text} {written : List Token} (lexes : Lexes text written left) :
    ∀ token ∈ written, token.IsPlain := by
  induction lexes with
  | done => exact List.forall_mem_nil _
  | blank _ _ ih => exact ih
  | mark marks _ ih => exact List.forall_mem_cons.mpr ⟨by cases marks <;> trivial, ih⟩
  | text _ joins _ ih => exact List.forall_mem_cons.mpr ⟨joins.isJoined, ih⟩
  | word literal _ _ ih => exact List.forall_mem_cons.mpr ⟨literal.isAtom, ih⟩

end Json

end VDiagnostics
