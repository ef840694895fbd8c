import VDiagnostics.Binary64.Notation
import VDiagnostics.Keyed
import VDiagnostics.Text.CodePoint

/-! Values of settings. They are what a settings file can hold, with the entries of an object in the
order in which they came. Keys and texts are code points, since a file can name half of a surrogate pair. -/

namespace VDiagnostics

inductive Value where
  | null
  | bool (value : Bool)
  | int (value : Int)
  | float (value : Binary64)
  | text (value : CodePoints)
  | list (items : List Value)
  | object (entries : List (CodePoints × Value))

namespace Value

instance : Inhabited Value := ⟨null⟩

def ofText (text : Text) : Value :=
  .text (.ofText text)

/-- The text that a value is, if it is one without halves of pairs. -/
def text? : Value → Option Text
  | text value => value.text?
  | _ => none

/-- A value that says nothing is like one that is absent: null, false, zero and all that is empty. -/
def isPresent : Value → Bool
  | null => false
  | bool value => value
  | int value => value != 0
  | float value =>
    match value.magnitude with
    | .finite mantissa _ => mantissa != 0
    | _ => true
  | text value => !value.isEmpty
  | list items => !items.isEmpty
  | object entries => !entries.isEmpty

def displayWords : Binary64.Words :=
  ⟨['i', 'n', 'f'], ['n', 'a', 'n']⟩

mutual

/-- A value as it stands inside a log line: texts are quoted, and names of constants are capitalised. -/
def quoted : Value → Text
  | null => "None".toList
  | bool value => if value then "True".toList else "False".toList
  | int value => Text.ofInt value
  | float value => value.text displayWords
  | text value => value.quoted
  | list items => '[' :: quotedItems items ++ [']']
  | object entries => '\x7b' :: quotedEntries entries ++ ['\x7d']

def quotedItems : List Value → Text
  | [] => []
  | [item] => quoted item
  | item :: next :: rest => quoted item ++ ',' :: ' ' :: quotedItems (next :: rest)

def quotedEntries : List (CodePoints × Value) → Text
  | [] => []
  | [(key, value)] => key.quoted ++ ':' :: ' ' :: quoted value
  | (key, value) :: next :: rest =>
    key.quoted ++ ':' :: ' ' :: quoted value ++ ',' :: ' ' :: quotedEntries (next :: rest)

end

/-- A value by itself: a text stands for what it says, without quotes. -/
def display : Value → Text
  | text value => value.display
  | value => quoted value

/-- The span that a value gives, if it is a number. A clock reading is more than an integer just when it
is more than the greatest reading that the integer reaches. -/
def span? : Value → Option Float
  | bool value => some (if value then 1.0 else 0.0)
  | int value => some (Binary64.reachedBy value).toFloat
  | float value => some value.toFloat
  | _ => none

end Value

end VDiagnostics
