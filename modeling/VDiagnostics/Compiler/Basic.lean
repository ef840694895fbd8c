import VDiagnostics.Compiler.Compiled
import VDiagnostics.Lint.State
import VDiagnostics.Path.Basic
import VDiagnostics.Settings.Basic
import VDiagnostics.Surroundings

/-! The compiler is a name that was looked up once. It is started with the flags of the settings and
writes its throwaway result to one file. -/

namespace VDiagnostics

inductive Event where
  | logged (entry : Journal.Entry)
  /-- A process was started, or its start was tried. -/
  | started (command : List Value) (folder : Text)
  /-- A state was handed to whoever listens. -/
  | published (state : Lint.State)

inductive Launch where
  | exited (stdout stderr : Text) (code : Int)
  | refused (reason : Text)
  /-- The process was started or its start was tried, but nothing came of it that can be looked at. -/
  | failed (fault : Fault)
  deriving DecidableEq

def Launch.silent : Launch :=
  .exited [] [] 0

structure Compiler where
  name : Value
  path : Option CodePoints

namespace Compiler

open Journal (Entry)

def found? (compiler : Compiler) : Option CodePoints :=
  compiler.path.filter fun path => !path.isEmpty

/-- A compiler that is not found is taken all the same; its runs report the problem. -/
def select (around : Surroundings) (name : Value) : Traced Entry Compiler :=
  match around.find name with
  | .error fault => .fail fault
  | .ok path =>
    let compiler : Compiler := ⟨name, path⟩
    match compiler.found? with
    | some _ => .answer compiler
    | none => .note (.compilerNotFound name) compiler

def outputName : Text := "lint.c".toList

/-- The folder for the result among what is thrown away, unless the settings name another. -/
def defaultFolder : Text := "vlint".toList

def outputIn (folder : CodePoints) : CodePoints :=
  if folder.getLast? = some (.char '/') then folder ++ CodePoints.ofText outputName
  else folder ++ .char '/' :: CodePoints.ofText outputName

def outputPath (around : Surroundings) (settings : Settings) : Except Fault CodePoints :=
  let folder := Settings.lookup Settings.outputFolderKey .null settings
  if folder.isPresent then
    match folder with
    | .text folder => .ok (outputIn folder)
    | _ => .error .unusableSetting
  else around.temporary.map fun temporary => outputIn (CodePoints.ofText (Path.join temporary defaultFolder))

/-- A text gives one flag for each of its code points, and an object gives its keys. -/
def flags (settings : Settings) : Except Fault (List Value) :=
  let flags := Settings.lookup Settings.flagsKey (.list []) settings
  if flags.isPresent then
    match flags with
    | .list items => .ok items
    | .text points => .ok (points.map fun point => .text [point])
    | .object entries => .ok ((Keyed.keys entries).map .text)
    | _ => .error .unusableSetting
  else .ok []

def command (compiler : Compiler) (around : Surroundings) (settings : Settings) (target : Text) :
    Except Fault (List Value) := do
  let flags ← flags settings
  let output ← outputPath around settings
  let program : Value := match compiler.found? with
    | some path => .text path
    | none => compiler.name
  pure (program :: flags ++ [.ofText ['-', 'o'], .text output, .ofText target])

/-- Why a compiler run failed before the compiler could say anything. -/
def failure (compiler : Compiler) (reason : Text) : Text :=
  "Failed to run '".toList ++ compiler.name.display ++ "': ".toList ++ reason

def notFound (compiler : Compiler) : Text :=
  "Compiler '".toList ++ compiler.name.display ++ "' not configured or not found.".toList

/-- What a launch of the compiler came to. -/
def collect (compiler : Compiler) : Launch → Except Fault Compiled
  | .exited stdout stderr code => .ok ⟨stdout, stderr, code, none⟩
  | .refused reason => .ok (.refused (compiler.failure reason))
  | .failed fault => .error fault

/-- Hands a command to the system, once the folder for its result is there. -/
def invoke (compiler : Compiler) (around : Surroundings) (launch : Launch) (command : List Value)
    (output : CodePoints) (folder : Text) : Traced Event Compiled :=
  match around.makeFolder output with
  | .refused reason => .answer (.refused (compiler.failure reason))
  | .failed fault => .fail fault
  | .done =>
    match around.objection? command folder with
    | some fault => .fail fault
    | none => ⟨[.started command folder], compiler.collect launch⟩

/-- Runs the compiler on a target in a folder. -/
def compile (compiler : Compiler) (around : Surroundings) (settings : Settings) (launch : Launch)
    (target folder : Text) : Traced Event Compiled :=
  match compiler.found? with
  | none => .answer (.refused compiler.notFound)
  | some _ =>
    match compiler.command around settings target, outputPath around settings with
    | .error fault, _ | _, .error fault => .fail fault
    | .ok command, .ok output =>
      (Traced.note (.logged (.running command folder)) ()).andThen fun _ =>
        compiler.invoke around launch command output folder

end Compiler

end VDiagnostics
