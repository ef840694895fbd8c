import VDiagnostics.Settings.Value
import VDiagnostics.Traced

/-! Writing a value as a settings file, piece by piece: two spaces more at each depth, and only printable ASCII
inside texts. An integer that is too long ends the writing, and so does a list or object that lies in more
than the machine has room for. What stands before it is written. -/

namespace VDiagnostics

namespace Json

def numberWords : Binary64.Words :=
  ⟨"Infinity".toList, "NaN".toList⟩

def escapeChar (c : Char) : Text :=
  if c = '"' then ['\\', '"']
  else if c = '\\' then ['\\', '\\']
  else if c = '\n' then ['\\', 'n']
  else if c = '\r' then ['\\', 'r']
  else if c = '\t' then ['\\', 't']
  else if c = '\x08' then ['\\', 'b']
  else if c = '\x0c' then ['\\', 'f']
  else if 0x20 ≤ c.toNat && c.toNat ≤ 0x7e then [c]
  else if c.toNat < 0x10000 then CodePoint.unitText c.toNat
  else
    let offset := c.toNat - 0x10000
    CodePoint.unitText (0xd800 + offset / 0x400) ++ CodePoint.unitText (0xdc00 + offset % 0x400)

def escapePoint : CodePoint → Text
  | .char c => escapeChar c
  | half => half.display

def renderText (text : CodePoints) : Text :=
  '"' :: text.flatMap escapePoint ++ ['"']

def indentation (depth : Nat) : Text :=
  '\n' :: List.replicate (2 * depth) ' '

def put (text : Text) : Traced Text Unit :=
  ⟨[text], .ok ()⟩

/-- What leads up to a list or object is written even if too many are open already. -/
def enter (room depth : Nat) (lead : Text) : Traced Text Unit :=
  ⟨[lead], if depth < room then .ok () else .error .tooDeepToWrite⟩

mutual

/-- Writes a value at a depth, together with what leads up to it. -/
def render (room depth : Nat) (lead : Text) : Value → Traced Text Unit
  | .null => put (lead ++ "null".toList)
  | .bool value => put (lead ++ if value then "true".toList else "false".toList)
  | .int value =>
    if digitLimit < (Text.ofNat value.natAbs).length then .fail .numberTooLarge
    else put (lead ++ Text.ofInt value)
  | .float value => put (lead ++ value.text numberWords)
  | .text value => put (lead ++ renderText value)
  | .list [] => (enter room depth lead).andThen fun _ => put ['[', ']']
  | .list (item :: rest) =>
    (enter room depth lead).andThen fun _ =>
      (renderItems room (depth + 1) ('[' :: indentation (depth + 1)) (item :: rest)).andThen fun _ =>
        put (indentation depth ++ [']'])
  | .object [] => (enter room depth lead).andThen fun _ => put ['\x7b', '\x7d']
  | .object (entry :: rest) =>
    (enter room depth lead).andThen fun _ =>
      (renderEntries room (depth + 1) ('\x7b' :: indentation (depth + 1)) (entry :: rest)).andThen fun _ =>
        put (indentation depth ++ ['\x7d'])

def renderItems (room depth : Nat) (lead : Text) : List Value → Traced Text Unit
  | [] => .answer ()
  | item :: rest =>
    (render room depth lead item).andThen fun _ => renderItems room depth (',' :: indentation depth) rest

def renderEntries (room depth : Nat) (lead : Text) : List (CodePoints × Value) → Traced Text Unit
  | [] => .answer ()
  | (key, value) :: rest =>
    (put (lead ++ renderText key ++ [':', ' '])).andThen fun _ =>
      (render room depth [] value).andThen fun _ => renderEntries room depth (',' :: indentation depth) rest

end

def write (room : Nat) (value : Value) : Text :=
  (render room 0 [] value).trace.flatten

end Json

end VDiagnostics
