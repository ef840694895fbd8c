import VDiagnostics.Proofs.SortedEntries
import VDiagnostics.Session
import Mathlib.Data.List.Forall2

/-! The report and the screen list the same rows. Each diagnostic has one, and the screen has those of the state
that it was given last. -/

namespace VDiagnostics

namespace View

/-- Every diagnostic can be named to the user. -/
def Labelled (cwd root : Text) (entries : Keyed (List Diagnostic)) : Prop :=
  ∀ entry ∈ entries, ∀ diagnostic ∈ entry.2, (label cwd root diagnostic).isOk

instance (cwd root : Text) (entries : Keyed (List Diagnostic)) : Decidable (Labelled cwd root entries) :=
  inferInstanceAs (Decidable (∀ entry ∈ entries, ∀ diagnostic ∈ entry.2, (label cwd root diagnostic).isOk))

namespace Row

/-- A row says where a diagnostic is, how severe it is and what it says. -/
structure Names (cwd root : Text) (diagnostic : Diagnostic) (row : Row) : Prop where
  location : label cwd root diagnostic = .ok row.location
  severity : row.severity = diagnostic.severity
  message : row.message = diagnostic.message

variable {cwd root : Text}

private theorem ofDiagnostics_cons (first : Diagnostic) (rest : List Diagnostic) :
    ofDiagnostics cwd root (first :: rest) =
      (ofDiagnostic cwd root first).bind fun row => (ofDiagnostics cwd root rest).map (row :: ·) := by
  rw [ofDiagnostics, List.mapM_cons]
  rfl

private theorem ofDiagnostics_append (front back : List Diagnostic) :
    ofDiagnostics cwd root (front ++ back) =
      (ofDiagnostics cwd root front).bind fun rows => (ofDiagnostics cwd root back).map (rows ++ ·) := by
  rw [ofDiagnostics, List.mapM_append]
  rfl

/-- Diagnostics that can be named have rows, one after the other. -/
theorem ofDiagnostics_labelled {diagnostics : List Diagnostic}
    (labelled : ∀ diagnostic ∈ diagnostics, (label cwd root diagnostic).isOk) :
    ∃ rows, ofDiagnostics cwd root diagnostics = .ok rows ∧ List.Forall₂ (Names cwd root) diagnostics rows := by
  induction diagnostics with
  | nil => exact ⟨[], rfl, .nil⟩
  | cons first rest ih =>
    obtain ⟨known, others⟩ := List.forall_mem_cons.mp labelled
    obtain ⟨rows, drawn, named⟩ := ih others
    cases found : label cwd root first with
    | error fault => simp [found, Except.isOk, Except.toBool] at known
    | ok location =>
      refine ⟨⟨location, first.severity, first.message⟩ :: rows, ?_, .cons ⟨found, rfl, rfl⟩ named⟩
      rw [ofDiagnostics_cons, ofDiagnostic, found, drawn]
      rfl

end Row

namespace Report

/-- To go through the files, and through the diagnostics of each, is to go through all diagnostics. -/
theorem rows_eq (cwd root : Text) (entries : Keyed (List Diagnostic)) :
    rows cwd root entries = Row.ofDiagnostics cwd root ((Keyed.sorted entries).flatMap Prod.snd) := by
  rw [rows]
  induction Keyed.sorted entries with
  | nil => rfl
  | cons entry rest ih =>
    rw [List.flatMap_cons, Row.ofDiagnostics_append, ← ih, List.mapM_cons]
    cases Row.ofDiagnostics cwd root entry.2 with
    | error fault => rfl
    | ok front =>
      cases rest.mapM fun entry => Row.ofDiagnostics cwd root entry.2 <;> rfl

private theorem rows_labelled {cwd root : Text} {entries : Keyed (List Diagnostic)}
    (labelled : Labelled cwd root entries) :
    ∃ rows, Report.rows cwd root entries = .ok rows ∧
      List.Forall₂ (Row.Names cwd root) ((Keyed.sorted entries).flatMap Prod.snd) rows := by
  rw [rows_eq]
  apply Row.ofDiagnostics_labelled
  intro diagnostic inside
  obtain ⟨entry, member, listed⟩ := List.mem_flatMap.mp inside
  exact labelled entry ((Keyed.sorted_perm entries).mem_iff.mp member) diagnostic listed

end Report

end View

namespace Lint.State

/-- Whatever is not an error is a warning. -/
private theorem length_all (state : State) : state.all.length = state.errorCount + state.warningCount := by
  rw [errorCount, warningCount, count, count,
    List.length_eq_countP_add_countP fun diagnostic => diagnostic.severity == .error]
  congr 2
  funext diagnostic
  cases diagnostic.severity <;> rfl

end Lint.State

namespace View.Board

/-- The board has the rows of the report on a state, and counts its errors and its warnings. -/
structure Shows (board : Board) (cwd : Text) (state : Lint.State) : Prop where
  rows : Report.rows cwd state.workspace state.diagnostics = .ok board.rows
  errors : board.bar.errors = state.errorCount
  warnings : board.bar.warnings = state.warningCount
  counted : board.bar.errors + board.bar.warnings = board.rows.length

/-- The table is drawn from the same rows as the report. -/
theorem deliver_eq (cwd : Text) (board : Board) (state : Lint.State) :
    board.deliver cwd state = (Report.rows cwd state.workspace state.diagnostics).map fun rows =>
      { board with
        rows := rows
        raw := Pane.text (rawText state)
        bar := board.bar.set none (some (StatusBar.statusOf state.verdict))
          (some state.errorCount) (some state.warningCount) } := by
  rw [Report.rows_eq]
  rfl

theorem shows_deliver {cwd : Text} {state : Lint.State} (board : Board)
    (labelled : Labelled cwd state.workspace state.diagnostics) :
    ∃ shown, board.deliver cwd state = .ok shown ∧ shown.Shows cwd state := by
  obtain ⟨rows, drawn, named⟩ := Report.rows_labelled labelled
  have counted : state.all.length = rows.length := named.length_eq
  rw [deliver_eq, drawn]
  refine ⟨_, rfl, drawn, rfl, rfl, ?_⟩
  rw [← counted, Lint.State.length_all]
  rfl

/-- Toggling the view and waiting for a run leave rows and counts alone. -/
theorem Shows.toggle {board : Board} {cwd : Text} {state : Lint.State} (shows : board.Shows cwd state) :
    board.toggle.Shows cwd state :=
  ⟨shows.rows, shows.errors, shows.warnings, shows.counted⟩

theorem Shows.await {board : Board} {cwd : Text} {state : Lint.State} (shows : board.Shows cwd state) :
    board.await.Shows cwd state :=
  ⟨shows.rows, shows.errors, shows.warnings, shows.counted⟩

end View.Board

/-- The state that an event makes known, if any. -/
def Event.state? : Event → Option Lint.State
  | .published state => some state
  | _ => none

namespace Screen

open View (Board Labelled)

/-- What can happen to a screen. The engine does something, of its own accord or because it is told to, or a key is
pressed. -/
inductive Move where
  | act (action : Engine → Surroundings → Launch → Outcome Engine Event Unit)
  | press (key : Option Key)

def Move.outcome (screen : Screen) : Move → Outcome Screen Event Unit
  | .act action => screen.perform action
  | .press key => screen.press key

def after (screen : Screen) : List Move → Screen
  | [] => screen
  | move :: rest => after (move.outcome screen).state rest

/-- The states that are published on the way, in their order. -/
def published (screen : Screen) : List Move → List Lint.State
  | [] => []
  | move :: rest => (move.outcome screen).trace.filterMap Event.state? ++ published (move.outcome screen).state rest

private theorem reveal_published (cwd : Text) (board : Board) (state : Lint.State) (rest : List Event) :
    reveal cwd board (.published state :: rest) = (board.deliver cwd state).bind fun shown => reveal cwd shown rest :=
  rfl

/-- Of states that are revealed one after the other the board shows the last, or else what it showed before. -/
theorem shows_reveal {cwd : Text} {board : Board} {events : List Event} {before : Option Lint.State}
    (shows : ∀ state ∈ before, board.Shows cwd state)
    (labelled : ∀ state ∈ events.filterMap Event.state?, Labelled cwd state.workspace state.diagnostics) :
    ∃ revealed, reveal cwd board events = .ok revealed ∧
      ∀ state ∈ (events.filterMap Event.state?).getLast?.or before, revealed.Shows cwd state := by
  induction events generalizing board before with
  | nil => exact ⟨board, rfl, shows⟩
  | cons event rest ih =>
    cases event with
    | logged entry => exact ih shows labelled
    | started command folder => exact ih shows labelled
    | published state =>
      obtain ⟨first, others⟩ := List.forall_mem_cons.mp labelled
      obtain ⟨shown, delivered, showing⟩ := Board.shows_deliver board first
      have current : ∀ other ∈ some state, shown.Shows cwd other := by
        intro other same
        cases same
        exact showing
      obtain ⟨revealed, last, held⟩ := ih current others
      refine ⟨revealed, ?_, ?_⟩
      · rw [reveal_published, delivered]
        exact last
      · intro other newest
        apply held
        simpa [Event.state?, List.getLast?_cons] using newest

variable {screen : Screen}

/-- A move leaves the board with the state that was published last, or else with what it showed before. -/
structure KeepsUp (screen : Screen) (outcome : Outcome Screen Event Unit) : Prop where
  around : outcome.state.session.around = screen.session.around
  shows : ∀ before : Option Lint.State, (∀ state ∈ before, screen.board.Shows screen.session.around.cwd state) →
    (∀ state ∈ outcome.trace.filterMap Event.state?,
      Labelled screen.session.around.cwd state.workspace state.diagnostics) →
    ∀ state ∈ (outcome.trace.filterMap Event.state?).getLast?.or before,
      outcome.state.board.Shows screen.session.around.cwd state

private theorem trace_perform {α : Type} (screen : Screen)
    (action : Engine → Surroundings → Launch → Outcome Engine Event α) :
    (screen.perform action).trace = (screen.session.perform action).trace := by
  unfold perform
  dsimp only
  split <;> rfl

private theorem around_perform {α : Type} (screen : Screen)
    (action : Engine → Surroundings → Launch → Outcome Engine Event α) :
    (screen.perform action).state.session.around = screen.session.around := by
  unfold perform
  dsimp only
  split <;> rfl

private theorem board_perform {α : Type} {board : Board}
    {action : Engine → Surroundings → Launch → Outcome Engine Event α}
    (revealed : reveal screen.session.around.cwd screen.board (screen.session.perform action).trace = .ok board) :
    (screen.perform action).state.board = board := by
  have later : reveal (screen.session.perform action).state.around.cwd screen.board
      (screen.session.perform action).trace = .ok board := revealed
  unfold perform
  simp only [later]

private theorem keepsUp_perform {α : Type} (screen : Screen)
    (action : Engine → Surroundings → Launch → Outcome Engine Event α) :
    screen.KeepsUp (screen.perform action) := by
  refine ⟨around_perform screen action, fun before shows labelled => ?_⟩
  rw [trace_perform] at labelled ⊢
  obtain ⟨board, revealed, held⟩ := shows_reveal shows labelled
  rw [board_perform revealed]
  exact held

private theorem keepsUp_press (screen : Screen) (key : Option Key) : screen.KeepsUp (screen.press key) := by
  cases key with
  | none => exact ⟨rfl, fun before shows _ => shows⟩
  | some key =>
    cases key with
    | refresh =>
      have kept := keepsUp_perform { screen with board := screen.board.await } fun engine around launch =>
        engine.refresh around launch
      exact ⟨kept.around, fun before shows => kept.shows before fun state last => (shows state last).await⟩
    | toggleOutput => exact ⟨rfl, fun before shows _ state last => (shows state last).toggle⟩
    | quit => exact ⟨rfl, fun before shows _ => shows⟩

private theorem keepsUp_outcome (screen : Screen) (move : Move) : screen.KeepsUp (move.outcome screen) := by
  cases move with
  | act action => exact keepsUp_perform screen action
  | press key => exact keepsUp_press screen key

/-- After any moves the board shows the state that was published last. -/
theorem shows_after {moves : List Move} {before : Option Lint.State}
    (shows : ∀ state ∈ before, screen.board.Shows screen.session.around.cwd state)
    (labelled : ∀ state ∈ screen.published moves,
      Labelled screen.session.around.cwd state.workspace state.diagnostics) :
    ∀ state ∈ (screen.published moves).getLast?.or before,
      (screen.after moves).board.Shows screen.session.around.cwd state := by
  induction moves generalizing screen before with
  | nil => exact shows
  | cons move rest ih =>
    have kept := keepsUp_outcome screen move
    obtain ⟨now, later⟩ := List.forall_mem_append.mp labelled
    have held := kept.shows before shows now
    rw [← kept.around] at held later ⊢
    rw [published, List.getLast?_append, Option.or_assoc]
    exact ih held later

end Screen

namespace View

/-- The report and the board list the same rows: one for each diagnostic, by code point order of the files and in
the order of each file, however the files were entered. After any moves the board has those of the state that was
published last. -/
theorem report_rows_shown :
    (∀ (cwd root : Text) (entries : Keyed (List Diagnostic)),
      (Keyed.keys entries).Nodup → Labelled cwd root entries →
        ∃ rows ordered, ordered.Perm entries ∧ (Keyed.keys ordered).Pairwise (· < ·) ∧
          List.Forall₂ (Row.Names cwd root) (ordered.flatMap Prod.snd) rows ∧
          ∀ state : Lint.State, state.workspace = root → state.diagnostics.Perm entries →
            Report.rows cwd root state.diagnostics = .ok rows ∧
            state.errorCount + state.warningCount = rows.length ∧
            ∀ board : Board, ∃ shown, board.deliver cwd state = .ok shown ∧ shown.rows = rows) ∧
      ∀ (screen : Screen) (moves : List Screen.Move),
        (∀ state ∈ screen.published moves,
          Labelled screen.session.around.cwd state.workspace state.diagnostics) →
        ∀ state ∈ (screen.published moves).getLast?,
          (screen.after moves).board.Shows screen.session.around.cwd state := by
  refine ⟨fun cwd root entries distinct labelled => ?_, fun screen moves labelled state last => ?_⟩
  · obtain ⟨rows, drawn, named⟩ := Report.rows_labelled labelled
    refine ⟨rows, Keyed.sorted entries, Keyed.sorted_perm entries, Keyed.ascending_keys_sorted distinct, named, ?_⟩
    rintro state rfl same
    have sorted := Keyed.sorted_eq_of_perm distinct same
    have reported : Report.rows cwd state.workspace state.diagnostics = .ok rows := by
      rw [Report.rows_eq, sorted, ← Report.rows_eq]
      exact drawn
    refine ⟨reported, ?_, fun board => ?_⟩
    · rw [← named.length_eq, ← Lint.State.length_all, Lint.State.all, sorted]
    · rw [Board.deliver_eq, reported]
      exact ⟨_, rfl, rfl⟩
  · have nothing : ∀ state ∈ (none : Option Lint.State), screen.board.Shows screen.session.around.cwd state := by
      intro state absent
      cases absent
    apply Screen.shows_after nothing labelled
    rw [Option.or_none]
    exact last

/-- Files that come in the wrong order, on a board whose table is out of view. -/
theorem report_rows_shown_unsorted :
    let around := Surroundings.ofPrograms "/w".toList [("/w".toList, ["a.v".toList])] [(['v'], "/bin/v".toList)] none
    let output := "warning: b.v:3:4: y\nwarning: a.v:1:2: x".toList
    let early := Diagnostic.ofRecord "/w".toList .warning ⟨"a.v".toList, .known 1, .known 2, ['x'], []⟩
    let late := Diagnostic.ofRecord "/w".toList .warning ⟨"b.v".toList, .known 3, .known 4, ['y'], []⟩
    let entries : Keyed (List Diagnostic) := [("/w/b.v".toList, [late]), ("/w/a.v".toList, [early])]
    let rows : List Row := [⟨"a.v:1:2".toList, .warning, ['x']⟩, ⟨"b.v:3:4".toList, .warning, ['y']⟩]
    let state : Lint.State := ⟨"/w/a.v".toList, "/w".toList, output, some .failure, entries, []⟩
    ∃ engine, (Engine.create around [] "/w".toList).result = .ok engine ∧
      let screen : Screen :=
        ⟨⟨around, [.exited [] output 1], { engine with document := some "/w/a.v".toList }⟩, Board.initial⟩
      let moves : List Screen.Move := [.press (some .toggleOutput), .press (some .refresh)]
      Report.rows "/w".toList "/w".toList entries.reverse = .ok rows ∧
        screen.published moves = [state] ∧ (screen.after moves).board.rows = rows := by
  intro around output early late entries rows state
  refine ⟨_, rfl, ?_⟩
  intro screen moves
  obtain ⟨reported, followed⟩ := report_rows_shown
  have distinct : (Keyed.keys entries).Nodup := by decide +kernel
  have ordered : Keyed.sorted entries = entries.reverse := by
    apply Keyed.eq_of_ascending (Keyed.ascending_keys_sorted distinct)
    · decide +kernel
    · exact (Keyed.sorted_perm entries).trans (List.reverse_perm entries).symm
  have drawn : Report.rows "/w".toList "/w".toList entries = .ok rows := by
    rw [Report.rows_eq, ordered]
    decide +kernel
  have told : screen.published moves = [state] := by
    have said : ((screen.session.perform fun engine around launch => engine.refresh around launch).trace.filterMap
        Event.state?) = [state] := by decide +kernel
    simpa only [moves, Screen.published, Screen.Move.outcome, Screen.press, Screen.trace_perform, Traced.answer,
      List.filterMap_nil, List.nil_append, List.append_nil] using said
  have labelled : Labelled "/w".toList "/w".toList entries := by decide +kernel
  refine ⟨?_, told, ?_⟩
  · obtain ⟨found, _, _, _, _, agreed⟩ := reported _ _ entries distinct labelled
    obtain rfl : found = rows := Except.ok.inj ((agreed state rfl (.refl _)).1.symm.trans drawn)
    exact (agreed { state with diagnostics := entries.reverse } rfl (List.reverse_perm _)).1
  · have known : ∀ other ∈ screen.published moves, Labelled "/w".toList other.workspace other.diagnostics := by
      rw [told]
      exact List.forall_mem_singleton.mpr labelled
    have shows := followed screen moves known state (by rw [told]; rfl)
    exact Except.ok.inj (shows.rows.symm.trans drawn)

end View

end VDiagnostics
