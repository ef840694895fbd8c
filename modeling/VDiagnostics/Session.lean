import VDiagnostics.Engine
import VDiagnostics.View.Board

/-! A session is an engine on a machine whose processes will end in a known way, one after the other.
The screen adds the board, which shows every state that the engine publishes. -/

namespace VDiagnostics

structure Session where
  around : Surroundings
  /-- What comes of the next processes; later ones say nothing. -/
  launches : List Launch
  engine : Engine

def Event.isStart : Event → Bool
  | .started _ _ => true
  | _ => false

namespace Session

variable {α : Type}

/-- Lets the engine do something. A process that it starts takes the next launch. -/
def perform (session : Session)
    (action : Engine → Surroundings → Launch → Outcome Engine Event α) : Outcome Session Event α :=
  let outcome := action session.engine session.around (session.launches.headD Launch.silent)
  let launches :=
    if outcome.trace.any Event.isStart then session.launches.tail else session.launches
  outcome.mapState fun engine => { session with engine := engine, launches := launches }

def lint (session : Session) (document : Text) : Outcome Session Event Lint.Result :=
  (session.perform fun engine around launch => engine.lint around launch document).await

/-- Puts runs into the queue. All of them take place, and the first fault among them is the answer. -/
def lintAll (session : Session) : List Text → Outcome Session Event (List Lint.Result)
  | [] => ⟨.answer [], session⟩
  | document :: rest =>
    let first := session.lint document
    let others := first.state.lintAll rest
    let results := match first.result, others.result with
      | .ok result, .ok results => .ok (result :: results)
      | .error fault, _ => .error fault
      | _, .error fault => .error fault
    ⟨⟨first.trace ++ others.trace, results⟩, others.state⟩

end Session

/-- An interactive session with what it shows. -/
structure Screen where
  session : Session
  board : View.Board

namespace Screen

/-- Shows the states that were published, in their order. -/
def reveal (cwd : Text) (board : View.Board) (events : List Event) : Except Fault View.Board :=
  events.foldlM (fun board event =>
    match event with
    | .published state => board.deliver cwd state
    | _ => .ok board) board

/-- Lets the engine do something and shows it. A fault of a run is no fault of the screen. -/
def perform {α : Type} (screen : Screen)
    (action : Engine → Surroundings → Launch → Outcome Engine Event α) :
    Outcome Screen Event Unit :=
  let outcome := screen.session.perform action
  match reveal outcome.state.around.cwd screen.board outcome.trace with
  | .ok board => ⟨outcome.toTraced.map fun _ => (), ⟨outcome.state, board⟩⟩
  | .error fault => ⟨⟨outcome.trace, .error fault⟩, { screen with session := outcome.state }⟩

/-- Opens the screen for a document and runs for it. -/
def enter (session : Session) (document : Text) : Outcome Screen Event Unit :=
  let path := Path.absolute session.around.cwd document
  match View.Board.opening session.around.cwd session.engine.workspace document with
  | .error fault => ⟨.fail fault, ⟨session, View.Board.initial⟩⟩
  | .ok board =>
    (⟨session, board⟩ : Screen).perform fun engine around launch => engine.start around launch path

/-- The keys that do something. -/
inductive Key where
  | refresh
  | toggleOutput
  | quit
  deriving DecidableEq

def Key.ofText? : Text → Option Key
  | ['r'] => some .refresh
  | ['o'] => some .toggleOutput
  | ['q'] => some .quit
  | _ => none

def press (screen : Screen) (key : Option Key) : Outcome Screen Event Unit :=
  match key with
  | some .refresh =>
    ({ screen with board := screen.board.await } : Screen).perform fun engine around launch =>
      engine.refresh around launch
  | some .toggleOutput => ⟨.answer (), { screen with board := screen.board.toggle }⟩
  | some .quit | none => ⟨.answer (), screen⟩

def notice (screen : Screen) (event : SaveEvent Float) : Outcome Screen Event Unit :=
  screen.perform fun engine around launch => engine.notice around launch event

/-- Leaves the screen, which stops the engine. -/
def close (screen : Screen) : Screen :=
  { screen with session := { screen.session with engine := screen.session.engine.stop } }

end Screen

end VDiagnostics
