import VDiagnostics.Journal
import VDiagnostics.Settings.Json.Printer
import VDiagnostics.Settings.Json.Reader
import VDiagnostics.Traced

/-! The user's settings lie over the defaults. They are kept in a file, which may be absent, damaged or
no file at all, and every change is written at once. How deeply the file may be nested is up to the machine,
each time anew and less for reading than for writing. -/

namespace VDiagnostics

abbrev Settings := List (CodePoints × Value)

namespace Settings

open Journal (Entry)

/-- What is in the place of the settings file. -/
inductive Stored where
  | absent
  | folder
  | undecodable
  | text (contents : Text)

def Stored.ofBytes (bytes : ByteArray) : Stored :=
  match String.fromUTF8? bytes with
  | some contents => .text contents.toList
  | none => .undecodable

def compilerKey : CodePoints := .ofText "compiler".toList

def flagsKey : CodePoints := .ofText "flags".toList

def outputFolderKey : CodePoints := .ofText "output_dir".toList

def logFileKey : CodePoints := .ofText "log_file".toList

def logLevelKey : CodePoints := .ofText "log_level".toList

def debounceKey : CodePoints := .ofText "debounce_seconds".toList

def defaults : Settings :=
  [(compilerKey, .ofText ['v']),
    (flagsKey, .list []),
    (outputFolderKey, .null),
    (logFileKey, .ofText "/tmp/vlint.log".toList),
    (logLevelKey, .ofText "INFO".toList),
    (debounceKey, .float (Binary64.ofDecimal false 5 (-1)))]

/-- The value of a key, which may be null, or the given one where the key is absent. -/
def lookup (key : CodePoints) (otherwise : Value) (settings : Settings) : Value :=
  (Keyed.find? key settings).getD otherwise

/-- Reads the settings. A damaged file is passed over with a warning, unless it cannot be decoded, has a
numeral that is too long or is nested more deeply than there is room for. -/
def load (room : Nat) : Stored → Traced Entry Settings
  | .absent => .answer defaults
  | .folder => .note .settingsUnreadable defaults
  | .undecodable => .fail .undecodableSettings
  | .text contents =>
    match Json.read room contents with
    | .ok (.object entries) => .answer (Keyed.merge defaults entries)
    | .ok _ => .note .settingsIgnored defaults
    | .error .malformed => .note .settingsUnreadable defaults
    | .error (.numeralTooLong digits) => .fail (.numeralTooLong digits)
    | .error .listTooDeep => .fail .listTooDeep
    | .error .objectTooDeep => .fail .objectTooDeep

/-- Writes all settings into their place. What is written before a fault takes the place of what was
there, but a folder stays as it is. -/
def save (room : Nat) (settings : Settings) : Stored → Outcome Stored Entry Unit
  | .folder => ⟨.fail .settingsAreFolder, .folder⟩
  | _ =>
    let written := Json.render room 0 [] (.object settings)
    ⟨.ofExcept written.result, .text written.trace.flatten⟩

/-- Changes a value and writes the file. The change stands even if the file cannot be written. -/
def set (room : Nat) (settings : Settings) (stored : Stored) (key : CodePoints) (value : Value) :
    Outcome (Settings × Stored) Entry Unit :=
  let changed : Settings := Keyed.put key value settings
  (save room changed stored).mapState fun place => (changed, place)

end Settings

end VDiagnostics
