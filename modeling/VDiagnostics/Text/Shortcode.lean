import VDiagnostics.Keyed
import VDiagnostics.Text.Blank
import VDiagnostics.Text.Shortcode.Table

/-! On a terminal a name between two colons is shown as the picture it stands for. The name holds no
blank, and an unknown name stays as it is, colons and all. -/

namespace VDiagnostics

namespace Text

namespace Shortcode

/-- Takes the words of the table in pairs. -/
def pairs : List Text → Keyed Text
  | name :: picture :: rest => (name, picture) :: pairs rest
  | _ => []

def pictures : Keyed Text :=
  pairs ((split ' ' (table.toList.map fun c => if c = '\n' then ' ' else c)))

/-- Small letters for capitals, as far as names have any: those of ASCII and Latin 1, and the two
signs for units that look like one. -/
def lower (c : Char) : Char :=
  let n := c.toNat
  if (0x41 ≤ n && n ≤ 0x5a) || (0xc0 ≤ n && n ≤ 0xde && n != 0xd7) then Char.ofNat (n + 0x20)
  else if n = 0x212a then 'k'
  else if n = 0x212b then 'å'
  else c

/-- A name may ask for the plain or the coloured form of its picture. -/
def cutVariant (name : Text) : Text × Text :=
  if endsWith "-text".toList name then (name.take (name.length - 5), ['\ufe0e'])
  else if endsWith "-emoji".toList name then (name.take (name.length - 6), ['\ufe0f'])
  else (name, [])

def shown (name : Text) : Text :=
  let (name', variant) := cutVariant name
  match Keyed.find? (name'.map lower) pictures with
  | some picture => picture ++ variant
  | none => ':' :: name ++ [':']

/-- Goes through a text with what came since a colon that may begin a name, in reverse. -/
def replaceFrom : Option Text → Text → Text
  | none, [] => []
  | some reversed, [] => ':' :: reversed.reverse
  | none, c :: rest => if c = ':' then replaceFrom (some []) rest else c :: replaceFrom none rest
  | some reversed, c :: rest =>
    if c = ':' then shown reversed.reverse ++ replaceFrom none rest
    else if isBlank c then ':' :: reversed.reverse ++ c :: replaceFrom none rest
    else replaceFrom (some (c :: reversed)) rest

def replace (text : Text) : Text :=
  replaceFrom none text

end Shortcode

/-- Whether a terminal would act on a character and not show it. -/
def isTerminalControl (c : Char) : Bool :=
  let n := c.toNat
  n = 0x07 || n = 0x08 || n = 0x0b || n = 0x0c || n = 0x0d

/-- A text without the characters that a terminal acts on. -/
def withoutControls (text : Text) : Text :=
  text.filter fun c => !isTerminalControl c

def onTerminal (text : Text) : Text :=
  withoutControls (Shortcode.replace text)

end Text

end VDiagnostics
