import VDiagnostics.Session

/-! How one run of the engine can end. Later proofs go by these cases and never open a run again. -/

namespace VDiagnostics

def Event.starts (trace : List Event) : List Event :=
  trace.filter Event.isStart

@[simp] theorem Event.starts_append (front back : List Event) :
    Event.starts (front ++ back) = Event.starts front ++ Event.starts back :=
  List.filter_append front back

@[simp] theorem Event.starts_cons_logged (entry : Journal.Entry) (trace : List Event) :
    Event.starts (.logged entry :: trace) = Event.starts trace := rfl

@[simp] theorem Event.starts_logged (entries : List Journal.Entry) :
    Event.starts (entries.map Event.logged) = [] := by
  simp [Event.starts, Event.isStart]

/-- Either no process is started, and a fault or a refusal says why, or just one is started in the folder, with a
command that the system takes, and the result is what comes of its launch. -/
theorem Compiler.compile_cases (compiler : Compiler) (around : Surroundings) (settings : Settings)
    (launch : Launch) (target folder : Text) :
    let compiled := compiler.compile around settings launch target folder
    (Event.starts compiled.trace = [] ∧
        ((∃ fault, compiled.result = .error fault) ∨ ∃ reason, compiled.result = .ok (.refused reason))) ∨
      ∃ command, compiler.command around settings target = .ok command ∧ around.objection? command folder = none ∧
        Event.starts compiled.trace = [.started command folder] ∧ compiled.result = compiler.collect launch := by
  unfold compile
  cases compiler.found? with
  | none => exact .inl ⟨rfl, .inr ⟨_, rfl⟩⟩
  | some path =>
    cases compiler.command around settings target with
    | error fault => exact .inl ⟨rfl, .inl ⟨fault, rfl⟩⟩
    | ok command =>
      cases outputPath around settings with
      | error fault => exact .inl ⟨rfl, .inl ⟨fault, rfl⟩⟩
      | ok output =>
        simp only [invoke]
        cases around.makeFolder output with
        | refused reason => exact .inl ⟨rfl, .inr ⟨_, rfl⟩⟩
        | failed fault => exact .inl ⟨rfl, .inl ⟨fault, rfl⟩⟩
        | done =>
          cases objection : around.objection? command folder with
          | some fault => exact .inl ⟨rfl, .inl ⟨fault, rfl⟩⟩
          | none => exact .inr ⟨command, rfl, objection, rfl, rfl⟩

namespace Engine

/-- What a run is asked for, and the machine that it meets. -/
structure Call where
  around : Surroundings
  launch : Launch
  document : Text

structure Run where
  engine : Engine
  call : Call

namespace Run

def outcome (run : Run) : Outcome Engine Event Lint.Result :=
  run.engine.run run.call.around run.call.launch run.call.document

def starts (run : Run) : List Event :=
  Event.starts run.outcome.trace

/-- What the compiler said, if a process was started and ran to its end, and its output can be looked at. -/
def said (run : Run) : Option Text :=
  match run.call.launch with
  | .refused _ | .failed _ => none
  | .exited stdout stderr code =>
    if run.starts.isEmpty then none else some (Compiled.output ⟨stdout, stderr, code, none⟩)

def EndsAs (run : Run) (verdict : Lint.Verdict) : Prop :=
  ∃ result, run.outcome.result = .ok result ∧ result.verdict = verdict

/-- Just one process was started, in the workspace, with the compiler's command for what the document is compiled as,
to which the system had no objection. -/
def StartsOnce (run : Run) (workspace : Text) : Prop :=
  ∃ target command,
    Compiler.target run.call.around.files run.call.around.cwd run.call.document workspace = .ok target ∧
      run.engine.compiler.command run.call.around run.engine.settings target = .ok command ∧
      run.call.around.objection? command workspace = none ∧
      run.starts = [.started command workspace]

inductive Ended (run : Run) : Prop where
  | broken (fault : Fault) (result : run.outcome.result = .error fault) (state : run.outcome.state = run.engine)
      (silent : run.said = none) (starts : run.starts = [] ∨ run.StartsOnce run.engine.workspace)
  /-- The run has a result without the compiler, which is published. -/
  | withheld (verdict : Lint.Verdict) (error : Option Text)
      (reason : verdict = .skipped ∧ run.starts = [] ∨ verdict = .invocationFailed)
      (silent : run.said = none) (starts : run.starts = [] ∨ run.StartsOnce run.engine.workspace)
      (result : run.outcome.result = .ok (.without run.call.document verdict error))
      (state : run.outcome.state =
        (run.engine.publish (.without run.call.document verdict error)).state)
  /-- The compiler ran to its end, and its output goes to the collection. -/
  | digested (output : Text) (said : run.said = some output) (once : run.StartsOnce run.engine.workspace)
      (result : run.outcome.result = (run.engine.digest run.call.document output).result)
      (state : run.outcome.state = (run.engine.digest run.call.document output).state)

private theorem said_unstarted {run : Run} (starts : run.starts = []) : run.said = none := by
  unfold said
  split
  · rfl
  · rfl
  · simp [starts]

private theorem starts_digest (engine : Engine) (document output : Text) :
    Event.starts (engine.digest document output).trace = [] := by
  unfold digest
  simp only [Outcome.after, Event.starts_append, Event.starts_logged, List.nil_append]
  split <;> rfl

private theorem outcome_outside {run : Run}
    (outside : Path.isWithin run.call.around.cwd run.call.document run.engine.workspace = false) :
    run.outcome = (run.engine.publish (.without run.call.document .skipped none)).after
      [.logged (.skipping run.call.document run.engine.workspace)] := by
  simp [outcome, Engine.run, outside]

private theorem outcome_untargeted {run : Run} {fault : Fault}
    (inside : Path.isWithin run.call.around.cwd run.call.document run.engine.workspace = true)
    (untargeted : Compiler.target run.call.around.files run.call.around.cwd run.call.document
      run.engine.workspace = .error fault) : run.outcome = ⟨.fail fault, run.engine⟩ := by
  simp [outcome, Engine.run, inside, untargeted]

def compiled (run : Run) (target : Text) : Traced Event Compiled :=
  run.engine.compiler.compile run.call.around run.engine.settings run.call.launch target run.engine.workspace

def afterwards (run : Run) : Except Fault Compiled → Outcome Engine Event Lint.Result
  | .error fault => ⟨.fail fault, run.engine⟩
  | .ok result =>
    match result.refusal with
    | some reason =>
      (run.engine.publish (.without run.call.document .invocationFailed (some reason))).after
        [.logged (.invocationFailed reason)]
    | none => run.engine.digest run.call.document result.output

private theorem outcome_targeted {run : Run} {target : Text}
    (inside : Path.isWithin run.call.around.cwd run.call.document run.engine.workspace = true)
    (targeted : Compiler.target run.call.around.files run.call.around.cwd run.call.document
      run.engine.workspace = .ok target) :
    run.outcome = (run.afterwards (run.compiled target).result).after
      (.logged (.linting run.call.document target) :: (run.compiled target).trace) := by
  simp only [outcome, Engine.run, inside, if_true, targeted]
  rfl

private theorem starts_afterwards (run : Run) (compiled : Except Fault Compiled) :
    Event.starts (run.afterwards compiled).trace = [] := by
  unfold afterwards
  split
  · rfl
  · split
    · rfl
    · exact starts_digest run.engine run.call.document _

theorem ended (run : Run) : run.Ended := by
  cases inside : Path.isWithin run.call.around.cwd run.call.document run.engine.workspace with
  | false =>
    have whole := outcome_outside inside
    have starts : run.starts = [] := by rw [Run.starts, whole]; rfl
    exact .withheld .skipped none (.inl ⟨rfl, starts⟩) (said_unstarted starts) (.inl starts) (by rw [whole]; rfl)
      (by rw [whole]; rfl)
  | true =>
    cases targeted : Compiler.target run.call.around.files run.call.around.cwd run.call.document
        run.engine.workspace with
    | error fault =>
      have whole := outcome_untargeted inside targeted
      have starts : run.starts = [] := by rw [Run.starts, whole]; rfl
      exact .broken fault (by rw [whole]; rfl) (by rw [whole]) (said_unstarted starts) (.inl starts)
    | ok target =>
      have whole := outcome_targeted inside targeted
      have started : run.starts = Event.starts (run.compiled target).trace := by
        rw [starts, whole, Outcome.after, Event.starts_append, Event.starts_cons_logged, starts_afterwards,
          List.append_nil]
      rcases Compiler.compile_cases run.engine.compiler run.call.around run.engine.settings run.call.launch target
        run.engine.workspace with ⟨unstarted, result⟩ | ⟨command, commanded, objection, once, result⟩
      · have starts : run.starts = [] := started.trans unstarted
        rcases result with ⟨fault, failed⟩ | ⟨reason, refused⟩
        · rw [compiled, failed] at whole
          exact .broken fault (by rw [whole]; rfl) (by rw [whole]; rfl) (said_unstarted starts) (.inl starts)
        · rw [compiled, refused] at whole
          exact .withheld .invocationFailed (some reason) (.inr rfl) (said_unstarted starts) (.inl starts)
            (by rw [whole]; rfl) (by rw [whole]; rfl)
      · have starts : run.starts = [.started command run.engine.workspace] := started.trans once
        have single : run.StartsOnce run.engine.workspace :=
          ⟨target, command, targeted, commanded, objection, starts⟩
        rw [compiled, result] at whole
        -- What comes of the launch decides how the run goes on.
        cases launch : run.call.launch with
        | refused reason =>
          rw [launch] at whole
          exact .withheld .invocationFailed (some (run.engine.compiler.failure reason)) (.inr rfl)
            (by rw [said, launch]) (.inr single) (by rw [whole]; rfl) (by rw [whole]; rfl)
        | failed fault =>
          rw [launch] at whole
          exact .broken fault (by rw [whole]; rfl) (by rw [whole]; rfl) (by rw [said, launch]) (.inr single)
        | exited stdout stderr code =>
          rw [launch] at whole
          have spoken : run.said = some (Compiled.output ⟨stdout, stderr, code, none⟩) := by
            simp [said, launch, starts]
          exact .digested _ spoken single (by rw [whole]; rfl) (by rw [whole]; rfl)

end Run

end Engine

end VDiagnostics
