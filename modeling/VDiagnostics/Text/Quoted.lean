import VDiagnostics.Text.Printable

/-! Quoted text stays on one line and shows every character that could mislead a reader of the log.
The quote mark depends on the text, and what is escaped depends on the mark. -/

namespace VDiagnostics

namespace Text

namespace Quoted

/-- Single quotes, unless only double quotes leave the text without an escaped quote. -/
def mark (text : Text) : Char :=
  if text.elem '\'' && !text.elem '"' then '"' else '\''

/-- The last `width` hexadecimal digits of a number, in lower case. -/
def hex : Nat → Nat → Text
  | 0, _ => []
  | width + 1, n => hex width (n / 16) ++ [Nat.digitChar (n % 16)]

def escape (mark c : Char) : Text :=
  if c = mark || c = '\\' then ['\\', c]
  else if c = '\n' then ['\\', 'n']
  else if c = '\r' then ['\\', 'r']
  else if c = '\t' then ['\\', 't']
  else if isPrintable c then [c]
  else if c.toNat ≤ 0xff then '\\' :: 'x' :: hex 2 c.toNat
  else if c.toNat ≤ 0xffff then '\\' :: 'u' :: hex 4 c.toNat
  else '\\' :: 'U' :: hex 8 c.toNat

end Quoted

def quoted (text : Text) : Text :=
  let mark := Quoted.mark text
  mark :: text.flatMap (Quoted.escape mark) ++ [mark]

end Text

end VDiagnostics
