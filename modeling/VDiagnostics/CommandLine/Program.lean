import VDiagnostics.CommandLine.Help
import VDiagnostics.World

/-! The program from its arguments to its exit code. A command line is refused, answered with a report
of one run, or opens the screen. -/

namespace VDiagnostics

namespace CommandLine

inductive ScreenEnd where
  | closed
  | interrupted
  | failed (reason : Text)
  deriving DecidableEq

structure Opening where
  document : Text
  workspace : Text
  settings : Settings

structure Ending where
  /-- The exit code, or the fault that ended the program. -/
  code : Except Fault Nat
  stdout : Text
  stderr : Text
  opening : Option Opening
  /-- Whether the log goes to the console, and whether it is verbose. -/
  logging : Option (Bool × Bool)
  trace : List Event

namespace Ending

def said (code : Nat) (stdout : Text) : Ending :=
  ⟨.ok code, stdout, [], none, none, []⟩

def faulted (fault : Fault) : Ending :=
  ⟨.error fault, [], [], none, none, []⟩

def refused (misuse : Misuse) : Ending :=
  ⟨.ok 2, [], complaint misuse, none, none, []⟩

def after (events : List Event) (ending : Ending) : Ending :=
  { ending with trace := events ++ ending.trace }

end Ending

def noFile : Text :=
  "Error: No source file specified.\nUsage: vlint <file.v>\n".toList

def fileNotFound (path : Text) : Text :=
  "Error: File not found: ".toList ++ path ++ ['\n']

def unsupported : Text :=
  "Error: Unsupported file type. Use .v\n".toList

/-- A line that is written through the terminal's conventions. -/
def terminalLine (text : Text) : Text :=
  Text.onTerminal text ++ ['\n']

/-- What is printed about the result of one run. -/
def account (cwd document workspace : Text) (result : Lint.Result)
    (entries : Keyed (List Diagnostic)) : Except Fault Text :=
  match result.verdict with
  | .invocationFailed => .ok (terminalLine ("Error: ".toList ++ result.error.getD []))
  | .skipped => .ok (terminalLine ("Skipped: ".toList ++ document ++ " is outside ".toList ++ workspace))
  | .failure => (View.Report.rows cwd workspace entries).map View.Report.render
  | .success => .ok (terminalLine "No problems found.".toList)

/-- Runs once and reports. The exit code says whether there was anything to report. -/
def lintOnce (world : World) (settings : Settings) (document workspace : Text) : Ending :=
  let created := world.session settings workspace
  match created.result with
  | .error fault => (Ending.faulted fault).after created.trace
  | .ok session =>
    let outcome := session.lint document
    let ending := match outcome.result with
      | .error fault => Ending.faulted fault
      | .ok result =>
        match account world.around.cwd document workspace result outcome.state.engine.collection.entries with
        | .error fault => Ending.faulted fault
        | .ok text => Ending.said (if result.failed then 1 else 0) text
    (ending.after outcome.trace).after created.trace

/-- Opens the screen. An interruption by the user is no failure. -/
def interactive (settings : Settings) (document workspace : Text) (left : ScreenEnd) : Ending :=
  let ending := match left with
    | .closed | .interrupted => Ending.said 0 []
    | .failed reason => Ending.said 1 ("Fatal Error: ".toList ++ reason ++ ['\n'])
  { ending with opening := some ⟨document, workspace, settings⟩ }

/-- A text that says nothing is as good as none. -/
def given (argument : Option Text) : Option Text :=
  argument.filter fun text => !text.isEmpty

def lintDocument (world : World) (arguments : Arguments) (document workspace : Text) (left : ScreenEnd) :
    Ending :=
  let loaded := Settings.load world.room world.stored
  let ending := match loaded.result with
    | .error fault => Ending.faulted fault
    | .ok settings =>
      let settings : Settings := match given arguments.compiler with
        | some name => Keyed.put Settings.compilerKey (.ofText name) settings
        | none => settings
      let ending :=
        if arguments.once then lintOnce world settings document workspace
        else interactive settings document workspace left
      { ending with logging := some (arguments.once, arguments.verbose) }
  ending.after (loaded.trace.map Event.logged)

def runArguments (world : World) (arguments : Arguments) (left : ScreenEnd) : Ending :=
  match given arguments.file with
  | none => .said 1 noFile
  | some file =>
    let cwd := world.around.cwd
    let document := Path.absolute cwd file
    let workspace := Path.absolute cwd ((given arguments.workspace).getD cwd)
    if !world.around.files.hasPath document then .said 1 (fileNotFound document)
    else if !Path.isSource document then .said 1 unsupported
    else lintDocument world arguments document workspace left

def run (world : World) (words : List Text) (left : ScreenEnd) : Ending :=
  match Arguments.read words with
  | .error .help => .said 0 help
  | .error (.misuse misuse) => .refused misuse
  | .ok arguments => runArguments world arguments left

end CommandLine

end VDiagnostics
