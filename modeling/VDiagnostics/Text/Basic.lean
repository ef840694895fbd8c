/-! Text is a list of characters, so every rule of this library is a recursion or a fold that a proof
can follow. Here are the cuts and searches that the other modules share. -/

namespace VDiagnostics

abbrev Text := List Char

namespace Text

/-- The pieces between separators. There is always one more piece than there are separators. -/
def split (separator : Char) : Text → List Text
  | [] => [[]]
  | c :: rest =>
    if c = separator then [] :: split separator rest
    else match split separator rest with
      | [] => [[c]]
      | piece :: pieces => (c :: piece) :: pieces

/-- Only the line feed ends a line. -/
def lines (text : Text) : List Text :=
  split '\n' text

def unlines (lines : List Text) : Text :=
  ['\n'].intercalate lines

def startsWith (start text : Text) : Bool :=
  start.isPrefixOf text

def endsWith (ending text : Text) : Bool :=
  ending.isSuffixOf text

def contains (marker : Text) : Text → Bool
  | [] => marker.isEmpty
  | c :: rest => marker.isPrefixOf (c :: rest) || contains marker rest

def lineIndex? (marker : Text) (lines : List Text) : Option Nat :=
  lines.findIdx? (contains marker)

def lineWith? (marker : Text) (lines : List Text) : Option Text :=
  lines.find? (contains marker)

/-- What stands before and after the first separator, if there is one. -/
def cut? (separator : Char) : Text → Option (Text × Text)
  | [] => none
  | c :: rest =>
    if c = separator then some ([], rest)
    else (cut? separator rest).map fun (before, after) => (c :: before, after)

def ofNat (n : Nat) : Text :=
  Nat.toDigits 10 n

def ofInt (n : Int) : Text :=
  if n < 0 then '-' :: ofNat n.natAbs else ofNat n.natAbs

/-- Code point order, in which a proper beginning comes first. -/
def precedes (first second : Text) : Bool :=
  !second.lex first fun c d => c.toNat < d.toNat

theorem split_ne_nil (separator : Char) (text : Text) : split separator text ≠ [] := by
  cases text with
  | nil => simp [split]
  | cons c rest =>
    rw [split]
    split
    · simp
    · split <;> simp

end Text

end VDiagnostics
