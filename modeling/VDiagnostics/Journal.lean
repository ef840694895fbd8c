import VDiagnostics.Anomaly
import VDiagnostics.Output.Format
import VDiagnostics.Settings.Value

/-! The journal is the log of all parts. An entry says what happened; its level, its channel and its
wording follow from that. -/

namespace VDiagnostics

namespace Journal

inductive Level where
  | debug
  | info
  | warning
  | error
  deriving DecidableEq

def Level.name : Level → Text
  | debug => "DEBUG".toList
  | info => "INFO".toList
  | warning => "WARNING".toList
  | error => "ERROR".toList

/-- The part of the program that an entry comes from. -/
inductive Channel where
  | anomalies
  | collection
  | compiler
  | engine
  | settings
  | watcher
  deriving DecidableEq

inductive Entry where
  | anomaly (found : Anomaly)
  /-- A run of the document had nothing to report. -/
  | clean (document : Text)
  | counted (document : Text) (count : Nat) (format : Format)
  | compilerNotFound (name : Value)
  | running (command : List Value) (folder : Text)
  | skipping (document workspace : Text)
  | linting (document target : Text)
  | invocationFailed (reason : Text)
  | crashed
  | changed (path : Text)
  /-- The settings file holds a value, but no object. -/
  | settingsIgnored
  | settingsUnreadable

namespace Entry

def level : Entry → Level
  | anomaly _ | compilerNotFound _ | settingsIgnored | settingsUnreadable => .warning
  | clean _ | counted _ _ _ | skipping _ _ | linting _ _ => .info
  | running _ _ | changed _ => .debug
  | invocationFailed _ | crashed => .error

def channel : Entry → Channel
  | anomaly _ => .anomalies
  | clean _ | counted _ _ _ => .collection
  | compilerNotFound _ | running _ _ => .compiler
  | skipping _ _ | linting _ _ | invocationFailed _ | crashed => .engine
  | changed _ => .watcher
  | settingsIgnored | settingsUnreadable => .settings

/-- The wording. The entries about the settings file leave its place open. -/
def text : Entry → Text
  | anomaly found => found.report
  | clean document => "Clean: ".toList ++ document
  | counted document count format =>
    document ++ ": ".toList ++ Text.ofNat count ++ [' '] ++ format.name ++ " diagnostic(s)".toList
  | compilerNotFound name => "V compiler '".toList ++ name.display ++ "' not found.".toList
  | running command folder =>
    "Running ".toList ++ (Value.list command).quoted ++ " in ".toList ++ folder
  | skipping document workspace =>
    "Skipping ".toList ++ document ++ ": outside workspace ".toList ++ workspace
  | linting document target =>
    "Linting ".toList ++ document ++ " (target ".toList ++ target ++ [')']
  | invocationFailed reason => reason
  | crashed => "Lint run crashed".toList
  | changed path => "Source changed: ".toList ++ path
  | settingsIgnored => "Ignoring %s: expected a JSON object".toList
  | settingsUnreadable => "Could not read %s, using defaults: %s".toList

end Entry

end Journal

end VDiagnostics
