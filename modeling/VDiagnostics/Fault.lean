import VDiagnostics.Text.Quoted

/-! A fault ends an operation early. Its constructors are the causes, and its wording is in one place. -/

namespace VDiagnostics

/-- Numerals with more digits are neither read nor written. -/
def digitLimit : Nat := 4300

inductive Fault where
  | numeralTooLong (digits : Nat)
  | numberTooLarge
  /-- A list of the settings file lies in too many others. -/
  | listTooDeep
  /-- An object of the settings file lies in too many others. -/
  | objectTooDeep
  /-- A list or an object lies in too many others to be written. -/
  | tooDeepToWrite
  /-- A relative spelling was asked of the empty path. -/
  | noPath
  /-- A null character ends a path for the system, so it can stand in none. -/
  | nullInPath
  | unknownOutcome (name : Text)
  /-- The name of a log level stands for a text. -/
  | textualLevel (text : Text)
  /-- A setting holds a value of a kind that its use cannot take. -/
  | unusableSetting
  /-- Half of a surrogate pair stands in what is handed to the system. -/
  | unencodable
  | undecodableSettings
  /-- What a process has written is no encoded text. -/
  | undecodableOutput
  /-- The settings file cannot be written, since a folder is in its place. -/
  | settingsAreFolder
  | disposed (collection : Text)
  | stopped
  | alreadyWatching
  | noDirectory (path : Text)
  | cannotWatch (path : Text)
  deriving DecidableEq

def Fault.message : Fault → Text
  | .numeralTooLong digits =>
    "Exceeds the limit (".toList ++ Text.ofNat digitLimit ++
      " digits) for integer string conversion: value has ".toList ++ Text.ofNat digits ++
      " digits; use sys.set_int_max_str_digits() to increase the limit".toList
  | .numberTooLarge =>
    "Exceeds the limit (".toList ++ Text.ofNat digitLimit ++
      (" digits) for integer string conversion; " ++
        "use sys.set_int_max_str_digits() to increase the limit").toList
  | .listTooDeep =>
    "maximum recursion depth exceeded while decoding a JSON array from a unicode string".toList
  | .objectTooDeep =>
    "maximum recursion depth exceeded while decoding a JSON object from a unicode string".toList
  | .tooDeepToWrite => "maximum recursion depth exceeded".toList
  | .noPath => "no path specified".toList
  | .nullInPath => "embedded null byte".toList
  | .unknownOutcome name => Text.quoted name ++ " is not a valid RunOutcome".toList
  | .textualLevel text => "Unknown level: ".toList ++ Text.quoted text
  | .unusableSetting => "a setting has a value of the wrong kind".toList
  | .unencodable => "surrogates not allowed".toList
  | .undecodableSettings => "the settings are not encoded text".toList
  | .undecodableOutput => "the output is not encoded text".toList
  | .settingsAreFolder => "a folder is in the place of the settings".toList
  | .disposed collection =>
    "Diagnostic collection '".toList ++ collection ++ "' has been disposed".toList
  | .stopped => "cannot schedule new futures after shutdown".toList
  | .alreadyWatching => "threads can only be started once".toList
  | .noDirectory path => "[Errno 2] No such file or directory: ".toList ++ Text.quoted path
  | .cannotWatch path => "Cannot watch non-existent file: ".toList ++ path

end VDiagnostics
