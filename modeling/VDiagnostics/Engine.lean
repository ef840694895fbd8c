import VDiagnostics.Compiler.Basic
import VDiagnostics.Compiler.Target
import VDiagnostics.Lint.Apply
import VDiagnostics.Path.Within
import VDiagnostics.Watch

/-! The engine runs the compiler for a document and publishes what it found. Runs are queued one after
the other, and a run that ends with a fault is logged and publishes nothing. -/

namespace VDiagnostics

structure Engine where
  workspace : Text
  settings : Settings
  compiler : Compiler
  collection : Collection
  state : Lint.State
  document : Option Text
  /-- What decides which saves matter, once a document was started. -/
  watch : Option (Watch Float)
  watching : Bool
  stopped : Bool

namespace Engine

def create (around : Surroundings) (settings : Settings) (root : Text) : Traced Event Engine :=
  let workspace := Path.absolute around.cwd root
  let name := Settings.lookup Settings.compilerKey (.ofText ['v']) settings
  ((Compiler.select around name).mapTrace Event.logged).map fun compiler =>
    { workspace := workspace
      settings := settings
      compiler := compiler
      collection := Collection.empty Diagnostic.source
      state := Lint.State.initial workspace
      document := none
      watch := none
      watching := false
      stopped := false }

def selectCompiler (engine : Engine) (around : Surroundings) (name : Value) :
    Outcome Engine Event Unit :=
  let selected := Compiler.select around name
  match selected.result with
  | .ok compiler =>
    ⟨⟨selected.trace.map Event.logged, .ok ()⟩, { engine with compiler := compiler }⟩
  | .error fault => ⟨⟨selected.trace.map Event.logged, .error fault⟩, engine⟩

def publish (engine : Engine) (result : Lint.Result) : Outcome Engine Event Lint.Result :=
  let state := engine.state.update result engine.collection.entries
  ⟨.note (.published state) result, { engine with state := state }⟩

def digest (engine : Engine) (document output : Text) : Outcome Engine Event Lint.Result :=
  let applied := Lint.apply engine.collection document engine.workspace output
  let engine := { engine with collection := applied.state }
  let outcome : Outcome Engine Event Lint.Result := match applied.result with
    | .ok result => engine.publish result
    | .error fault => ⟨.fail fault, engine⟩
  outcome.after (applied.trace.map Event.logged)

/-- One run. A run that never reached the compiler leaves the collection untouched. -/
def run (engine : Engine) (around : Surroundings) (launch : Launch) (document : Text) :
    Outcome Engine Event Lint.Result :=
  if Path.isWithin around.cwd document engine.workspace then
    match Compiler.target around.files around.cwd document engine.workspace with
    | .error fault => ⟨.fail fault, engine⟩
    | .ok target =>
      let compiled := engine.compiler.compile around engine.settings launch target engine.workspace
      let outcome : Outcome Engine Event Lint.Result := match compiled.result with
        | .error fault => ⟨.fail fault, engine⟩
        | .ok result =>
          match result.refusal with
          | some reason =>
            (engine.publish (.without document .invocationFailed (some reason))).after
              [.logged (.invocationFailed reason)]
          | none => engine.digest document result.output
      outcome.after (.logged (.linting document target) :: compiled.trace)
  else
    (engine.publish (.without document .skipped none)).after
      [.logged (.skipping document engine.workspace)]

/-- Puts a run into the queue, which takes none once the engine has stopped. The result of the run is for
whoever waits for it, and so is its fault, which is logged. -/
def lint (engine : Engine) (around : Surroundings) (launch : Launch) (document : Text) :
    Outcome Engine Event (Except Fault Lint.Result) :=
  if engine.stopped then ⟨.fail .stopped, engine⟩
  else
    let outcome := engine.run around launch (Path.absolute around.cwd document)
    let trace := match outcome.result with
      | .ok _ => outcome.trace
      | .error _ => outcome.trace ++ [.logged .crashed]
    ⟨⟨trace, .ok outcome.result⟩, outcome.state⟩

/-- The least time between two saves that matter, if the settings give a number for it. -/
def window (engine : Engine) : Option Float :=
  (Settings.lookup Settings.debounceKey (.float (Binary64.ofDecimal false 5 (-1)))
    engine.settings).span?

/-- Watches the folder of a document. The watch is new even where the watcher refuses a second start. -/
def startWatching (engine : Engine) (around : Surroundings) (path : Text) : Except Fault Unit × Engine :=
  match Watch.ofFile around.files around.cwd path engine.window 0 with
  | .error fault => (.error fault, engine)
  | .ok watch =>
    if engine.watch.isSome then (.error .alreadyWatching, { engine with watch := some watch })
    else (.ok (), { engine with watch := some watch, watching := true })

/-- Runs for a document and watches its folder. The run takes place whether or not there is something
to watch. -/
def start (engine : Engine) (around : Surroundings) (launch : Launch) (document : Text) :
    Outcome Engine Event (Except Fault Lint.Result) :=
  let path := Path.absolute around.cwd document
  let outcome := ({ engine with document := some path } : Engine).lint around launch path
  match outcome.result with
  | .error _ => outcome
  | .ok result =>
    let (watched, engine) := outcome.state.startWatching around path
    ⟨⟨outcome.trace, watched.map fun _ => result⟩, engine⟩

def refresh (engine : Engine) (around : Surroundings) (launch : Launch) :
    Outcome Engine Event (Option (Except Fault Lint.Result)) :=
  match engine.document with
  | none => ⟨.answer none, engine⟩
  | some document => (engine.lint around launch document).map some

/-- A save asks for a run and does not wait for its result. -/
def saved (engine : Engine) (around : Surroundings) (launch : Launch) (path : Text) :
    Outcome Engine Event Unit :=
  (engine.lint around launch (engine.document.getD path)).map fun _ => ()

/-- An event reaches the watch as soon as there is one. -/
def notice (engine : Engine) (around : Surroundings) (launch : Launch) (event : SaveEvent Float) :
    Outcome Engine Event Unit :=
  match engine.watch with
  | none => ⟨.answer (), engine⟩
  | some watch =>
    match watch.notice around.cwd event with
    | .error fault => ⟨.fail fault, engine⟩
    | .ok (none, _) => ⟨.answer (), engine⟩
    | .ok (some path, fired) =>
      (({ engine with watch := some fired }).saved around launch path).after [.logged (.changed path)]

def dispose (engine : Engine) : Engine :=
  { engine with collection := engine.collection.dispose }

def stop (engine : Engine) : Engine :=
  { engine.dispose with watching := false, stopped := true }

end Engine

end VDiagnostics
