import VDiagnostics.Fault
import VDiagnostics.Settings.Value

/-! Tokens of a settings file. A machine with one state per kind of token reads one character at a
time, and a malformed token is a token of its own, so that what stands before it is still read. -/

namespace VDiagnostics

namespace Json

inductive Token where
  | openList
  | closeList
  | openObject
  | closeObject
  | comma
  | colon
  | text (value : CodePoints)
  | scalar (value : Value)
  /-- An integer with more digits than may be read. -/
  | longInteger (digits : Nat)
  | malformed

/-- Where the machine is. Texts keep their code points in reverse and join pairs only at their end, since a
character may be written as two halves. -/
inductive Mode where
  | between
  | word (reversed : Text)
  | text (reversed : CodePoints)
  | escape (reversed : CodePoints)
  | code (reversed : CodePoints) (missing value : Nat)

/-- Only these four characters may separate tokens. -/
def isSpace (c : Char) : Bool :=
  c = ' ' || c = '\t' || c = '\n' || c = '\r'

def isDigit (c : Char) : Bool :=
  '0' ≤ c && c ≤ '9'

def digitsValue (digits : Text) : Nat :=
  Nat.ofDigitChars 10 digits 0

def cutSign (text : Text) : Bool × Text :=
  match text with
  | '-' :: rest => (true, rest)
  | _ => (false, text)

/-- The integer part has no needless zero. -/
def cutInteger? (text : Text) : Option (Text × Text) :=
  match text with
  | '0' :: rest => some (['0'], rest)
  | c :: _ => if isDigit c then some (text.takeWhile isDigit, text.dropWhile isDigit) else none
  | [] => none

/-- The digits after a point; a point without digits is left alone. -/
def cutFraction (text : Text) : Text × Text :=
  match text with
  | '.' :: rest =>
    if (rest.takeWhile isDigit).isEmpty then ([], text)
    else (rest.takeWhile isDigit, rest.dropWhile isDigit)
  | _ => ([], text)

def cutExponentSign (text : Text) : Bool × Text :=
  match text with
  | '-' :: rest => (true, rest)
  | '+' :: rest => (false, rest)
  | _ => (false, text)

/-- The exponent, if there is one with digits. -/
def cutExponent (text : Text) : Option Int × Text :=
  match text with
  | c :: rest =>
    let (negative, digits) := cutExponentSign rest
    if (c = 'e' || c = 'E') && !(digits.takeWhile isDigit).isEmpty then
      let size : Int := digitsValue (digits.takeWhile isDigit)
      (some (if negative then -size else size), digits.dropWhile isDigit)
    else (none, text)
  | [] => (none, [])

/-- The longest number at the start of a word. It is an integer unless it has a fraction or an
exponent. -/
def cutNumber? (word : Text) : Option (Token × Text) :=
  let (negative, unsigned) := cutSign word
  match cutInteger? unsigned with
  | none => none
  | some (whole, rest) =>
    let (fraction, rest) := cutFraction rest
    let (exponent, rest) := cutExponent rest
    if fraction.isEmpty && exponent.isNone then
      if digitLimit < whole.length then some (.longInteger whole.length, rest)
      else
        let size : Int := digitsValue whole
        some (.scalar (.int (if negative then -size else size)), rest)
    else
      let digits := digitsValue (whole ++ fraction)
      let number := Binary64.ofDecimal negative digits (exponent.getD 0 - fraction.length)
      some (.scalar (.float number), rest)

/-- The tokens of a word: a named value, or a number and perhaps something that follows it wrongly. -/
def wordTokens (word : Text) : List Token :=
  if word = ['n', 'u', 'l', 'l'] then [.scalar .null]
  else if word = ['t', 'r', 'u', 'e'] then [.scalar (.bool true)]
  else if word = ['f', 'a', 'l', 's', 'e'] then [.scalar (.bool false)]
  else if word = ['N', 'a', 'N'] then [.scalar (.float Binary64.notANumber)]
  else if word = ['I', 'n', 'f', 'i', 'n', 'i', 't', 'y'] then
    [.scalar (.float (Binary64.infinity false))]
  else if word = ['-', 'I', 'n', 'f', 'i', 'n', 'i', 't', 'y'] then
    [.scalar (.float (Binary64.infinity true))]
  else match cutNumber? word with
    | none => [.malformed]
    | some (token, []) => [token]
    | some (token, _ :: _) => [token, .malformed]

def hexValue? (c : Char) : Option Nat :=
  if '0' ≤ c && c ≤ '9' then some (c.toNat - '0'.toNat)
  else if 'a' ≤ c && c ≤ 'f' then some (c.toNat - 'a'.toNat + 10)
  else if 'A' ≤ c && c ≤ 'F' then some (c.toNat - 'A'.toNat + 10)
  else none

/-- The character that stands behind a backslash for another one. -/
def escaped? (c : Char) : Option Char :=
  match c with
  | '"' | '\\' | '/' => some c
  | 'b' => some '\x08'
  | 'f' => some '\x0c'
  | 'n' => some '\n'
  | 'r' => some '\r'
  | 't' => some '\t'
  | _ => none

/-- What a character that cannot belong to a word begins. -/
def delimiter? (c : Char) : Option (Mode × List Token) :=
  if isSpace c then some (.between, [])
  else match c with
    | '[' => some (.between, [.openList])
    | ']' => some (.between, [.closeList])
    | '\x7b' => some (.between, [.openObject])
    | '\x7d' => some (.between, [.closeObject])
    | ',' => some (.between, [.comma])
    | ':' => some (.between, [.colon])
    | '"' => some (.text [], [])
    | _ => none

/-- Takes one character, and gives the tokens that it completes. -/
def advance : Mode → Char → Mode × List Token
  | .between, c => (delimiter? c).getD (.word [c], [])
  | .word reversed, c =>
    match delimiter? c with
    | none => (.word (c :: reversed), [])
    | some (next, tokens) => (next, wordTokens reversed.reverse ++ tokens)
  | .text reversed, c =>
    if c = '"' then (.between, [.text (CodePoints.join reversed.reverse)])
    else if c = '\\' then (.escape reversed, [])
    else if c.toNat < 0x20 then (.between, [.malformed])
    else (.text (.char c :: reversed), [])
  | .escape reversed, c =>
    if c = 'u' then (.code reversed 4 0, [])
    else match escaped? c with
      | none => (.between, [.malformed])
      | some character => (.text (.char character :: reversed), [])
  | .code reversed missing value, c =>
    match hexValue? c with
    | none => (.between, [.malformed])
    | some digit =>
      let unit := 16 * value + digit
      if missing ≤ 1 then (.text (.ofUnit unit :: reversed), [])
      else (.code reversed (missing - 1) unit, [])

def finish : Mode → List Token
  | .between => []
  | .word reversed => wordTokens reversed.reverse
  | _ => [.malformed]

def tokens : Mode → Text → List Token
  | mode, [] => finish mode
  | mode, c :: rest => (advance mode c).2 ++ tokens (advance mode c).1 rest

end Json

end VDiagnostics
