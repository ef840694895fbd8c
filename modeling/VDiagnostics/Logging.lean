import VDiagnostics.Settings.Basic

/-! Where the log goes and from which level on. A one-time run logs to the console; the screen leaves
the terminal alone and logs to a file, or nowhere if the file cannot be opened. -/

namespace VDiagnostics

namespace Logging

/-- Why a file cannot be opened. -/
inductive Obstacle where
  | noSuchFile
  | isFolder
  | notFolder
  deriving DecidableEq

def Obstacle.message : Obstacle → Text
  | noSuchFile => "[Errno 2] No such file or directory".toList
  | isFolder => "[Errno 21] Is a directory".toList
  | notFolder => "[Errno 20] Not a directory".toList

inductive Handler where
  | console
  | file (path : CodePoints)
  | nowhere

/-- The console renders time and level itself. -/
def Handler.format : Handler → Text
  | console => "%(message)s".toList
  | file _ | nowhere => "%(asctime)s - %(name)s - %(levelname)s - %(message)s".toList

structure Setup where
  level : Nat
  handler : Handler
  /-- What is said when the log file cannot be opened. -/
  warning : Text

/-- The least level of the library that watches files, which is chatty. -/
def watcherLevel : Nat := 30

/-- The capitals of a letter, for the letters whose capitals occur in the name of a level. -/
def capitals (c : Char) : Text :=
  let n := c.toNat
  if 0x61 ≤ n && n ≤ 0x7a then [Char.ofNat (n - 0x20)]
  else if n = 0x131 then ['I']
  else if n = 0x17f then ['S']
  else if n = 0xfb05 || n = 0xfb06 then ['S', 'T']
  else [c]

def levels : Keyed Nat :=
  [("CRITICAL".toList, 50),
    ("FATAL".toList, 50),
    ("ERROR".toList, 40),
    ("WARNING".toList, 30),
    ("WARN".toList, 30),
    ("INFO".toList, 20),
    ("DEBUG".toList, 10),
    ("NOTSET".toList, 0)]

/-- The level of a name. An unknown name is as good as none, but two names stand for what is no level
and cannot be used. -/
def levelOf (name : Text) : Except Fault Nat :=
  if name = "BASIC_FORMAT".toList then
    .error (.textualLevel "%(levelname)s:%(name)s:%(message)s".toList)
  else if name = "_STYLES".toList then .error .unusableSetting
  else .ok ((Keyed.find? name levels).getD 20)

def levelName (settings : Settings) (verbose : Bool) : Text :=
  if verbose then "DEBUG".toList
  else ((Settings.lookup Settings.logLevelKey (.ofText "INFO".toList) settings).display).flatMap capitals

def openWarning (path : CodePoints) (obstacle : Obstacle) : Text :=
  "Warning: Could not configure file logging to ".toList ++ path.display ++ ": ".toList ++
    obstacle.message ++ ": ".toList ++ path.quoted ++ ['\n']

/-- The handler for a log file, and what is said about it. -/
def openFile (obstacle? : CodePoints → Option Obstacle) : Value → Except Fault (Handler × Text)
  | .text path =>
    match obstacle? path with
    | none => .ok (.file path, [])
    | some obstacle => .ok (.nowhere, openWarning path obstacle)
  | _ => .error .unusableSetting

/-- Chooses handler and level. The obstacles say which files cannot be opened. -/
def setUp (obstacle? : CodePoints → Option Obstacle) (settings : Settings) (console verbose : Bool) :
    Except Fault Setup := do
  let path := Settings.lookup Settings.logFileKey (.ofText "/tmp/vlint.log".toList) settings
  let (handler, warning) ← if console then .ok (.console, []) else openFile obstacle? path
  let level ← levelOf (levelName settings verbose)
  pure ⟨level, handler, warning⟩

end Logging

end VDiagnostics
