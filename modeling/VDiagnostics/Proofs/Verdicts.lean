import VDiagnostics.CommandLine.Program
import VDiagnostics.Proofs.EngineCoherence

/-! When a run that reached the compiler fails. What a process has to report is on its streams, and a run fails
exactly when there is something to report, unless an error stream that says nothing hides the other one. -/

namespace VDiagnostics

/-- A text says something if more than one character is left of it without the blanks around it. -/
def Text.Speaks (text : Text) : Prop :=
  1 < (trim text).length

instance (text : Text) : Decidable text.Speaks :=
  inferInstanceAs (Decidable (_ < _))

theorem Text.speaks_nil : ¬ Speaks [] := by decide

namespace Launch

/-- There is something to report: the error stream says something, or the process failed and the other stream
does. -/
def Reports : Launch → Prop
  | .exited stdout stderr code => stderr.Speaks ∨ code ≠ 0 ∧ stdout.Speaks
  | .refused _ | .failed _ => False

/-- The process failed and says why on one stream only, but something stands on the error stream. -/
def Hides : Launch → Prop
  | .exited stdout stderr code => code ≠ 0 ∧ stdout.Speaks ∧ ¬ stderr.Speaks ∧ stderr ≠ []
  | .refused _ | .failed _ => False

instance : (launch : Launch) → Decidable launch.Reports
  | .exited _ _ _ => inferInstanceAs (Decidable (_ ∨ _))
  | .refused _ | .failed _ => inferInstanceAs (Decidable False)

instance : (launch : Launch) → Decidable launch.Hides
  | .exited _ _ _ => inferInstanceAs (Decidable (_ ∧ _))
  | .refused _ | .failed _ => inferInstanceAs (Decidable False)

private theorem reports_of_hides {launch : Launch} (hides : launch.Hides) : launch.Reports := by
  cases launch with
  | exited stdout stderr code => exact .inr ⟨hides.1, hides.2.1⟩
  | refused reason => exact hides
  | failed fault => exact hides

end Launch

namespace Format

private theorem ofOutput_eq_clean {output : Text} : ofOutput output = .clean ↔ ¬ output.Speaks := by
  rw [ofOutput, Text.Speaks, Nat.not_lt]
  split
  next short => exact iff_of_true rfl short
  next long =>
    split
    all_goals exact iff_of_false (by simp) long

end Format

namespace Compiled

/-- Of what is read, the error stream comes first if anything stands on it. -/
theorem output_speaks {stdout stderr : Text} {code : Int} :
    (output ⟨stdout, stderr, code, none⟩).Speaks ↔
      (Launch.exited stdout stderr code).Reports ∧ ¬ (Launch.exited stdout stderr code).Hides := by
  have unread : stderr.Speaks → stderr ≠ [] := by
    rintro speaks rfl
    exact Text.speaks_nil speaks
  by_cases failed : code = 0
  · -- The other stream of a process that did not fail is not looked at.
    by_cases speaks : stderr.Speaks
    · have long : 1 < (Text.trim stderr).length := speaks
      simp [output, failed, long, unread speaks, speaks, Launch.Reports, Launch.Hides]
    · have short : ¬ 1 < (Text.trim stderr).length := speaks
      simp [output, failed, short, speaks, Launch.Reports, Text.speaks_nil]
  · by_cases emptied : stderr = []
    · subst emptied
      simp [output, failed, Launch.Reports, Launch.Hides, Text.speaks_nil]
    · by_cases speaks : stderr.Speaks <;> by_cases other : stdout.Speaks <;>
        simp [output, failed, emptied, speaks, other, Launch.Reports, Launch.Hides]

end Compiled

namespace Extraction

theorem format_of_records {output : Text} {format : Format} {found : List Record}
    (read : (records output).result = .ok (format, found)) : format = Format.ofOutput output := by
  unfold records at read
  split at read
  next clean => cases read; exact clean.symm
  next error =>
    obtain ⟨_, _, same⟩ := Traced.map_result_ok read
    cases same
    exact error.symm
  next warning =>
    obtain ⟨_, _, same⟩ := Traced.map_result_ok read
    cases same
    exact warning.symm

end Extraction

namespace Engine

/-- A run whose process ran to its end, in an engine that still stores, and whose output can be read. -/
structure Run.Completes (run : Run) (stdout stderr : Text) (code : Int) : Prop where
  exited : run.call.launch = .exited stdout stderr code
  ran : run.starts ≠ []
  opened : run.engine.collection.disposed = false
  read : (Extraction.records (Compiled.output ⟨stdout, stderr, code, none⟩)).result.isOk

theorem Run.Completes.answered {run : Run} {stdout stderr : Text} {code : Int}
    (completes : run.Completes stdout stderr code) :
    ∃ format found, run.outcome.result = .ok (StorePolicy.report run.call.document run.engine.workspace
        (Compiled.output ⟨stdout, stderr, code, none⟩) format found) ∧
      format = Format.ofOutput (Compiled.output ⟨stdout, stderr, code, none⟩) := by
  have spoken : run.said = some (Compiled.output ⟨stdout, stderr, code, none⟩) := by
    simp [Run.said, completes.exited, completes.ran]
  cases run.ended with
  | broken _ _ _ silent | withheld _ _ _ silent =>
    rw [silent] at spoken
    cases spoken
  | digested output said once result state =>
    obtain rfl : output = _ := Option.some.inj (said.symm.trans spoken)
    rcases digest_cases run.engine run.call.document _ with ⟨fault, failed, _⟩ | ⟨format, found, read, reported, _⟩
    · cases readable : (Extraction.records (Compiled.output ⟨stdout, stderr, code, none⟩)).result with
      | error fault => simpa [readable, Except.isOk, Except.toBool] using completes.read
      | ok pair =>
        have stored := (StorePolicy.apply_open run.call.document run.engine.workspace completes.opened readable).1
        rw [stored] at failed
        cases failed
    · exact ⟨format, found, result.trans reported, Extraction.format_of_records read⟩

theorem Run.Completes.verdict {run : Run} {stdout stderr : Text} {code : Int}
    (completes : run.Completes stdout stderr code) :
    ∃ result, run.outcome.result = .ok result ∧ result.verdict =
      if run.call.launch.Reports ∧ ¬ run.call.launch.Hides then .failure else .success := by
  obtain ⟨format, found, answered, read⟩ := completes.answered
  refine ⟨_, answered, ?_⟩
  have clean : format = .clean ↔ ¬ (run.call.launch.Reports ∧ ¬ run.call.launch.Hides) := by
    rw [read, Format.ofOutput_eq_clean, Compiled.output_speaks, completes.exited]
  by_cases reports : run.call.launch.Reports ∧ ¬ run.call.launch.Hides
  · rw [if_pos reports]
    exact if_neg fun same => clean.mp same reports
  · rw [if_neg reports]
    exact if_pos (clean.mpr reports)

end Engine

namespace CommandLine

/-- The run that a one-time report is about. -/
def onceRun (world : World) (engine : Engine) (document : Text) : Engine.Run :=
  ⟨engine, world.around, world.launches.headD Launch.silent, Path.absolute world.around.cwd document⟩

private theorem session_lint {world : World} {engine : Engine} (running : engine.stopped = false) (document : Text) :
    ((⟨world.around, world.launches, engine⟩ : Session).lint document).result =
      (onceRun world engine document).outcome.result := by
  simp only [Session.lint, Session.perform, Outcome.await, Outcome.mapState, Engine.lint, running,
    Bool.false_eq_true, if_false]
  rfl

private theorem account_passed {cwd document workspace : Text} {result : Lint.Result}
    {entries : Keyed (List Diagnostic)} (passed : result.failed = false) :
    ∃ text, account cwd document workspace result entries = .ok text := by
  unfold account
  cases verdict : result.verdict with
  | success | skipped => exact ⟨_, rfl⟩
  | failure | invocationFailed => simp [Lint.Result.failed, verdict, Lint.Verdict.failed] at passed

/-- The exit code is zero just for a run that did not fail. -/
theorem lintOnce_code {world : World} {settings : Settings} {document workspace : Text} {engine : Engine}
    {result : Lint.Result} (created : (Engine.create world.around settings workspace).result = .ok engine)
    (answered : (onceRun world engine document).outcome.result = .ok result) :
    (lintOnce world settings document workspace).code = .ok 0 ↔ result.failed = false := by
  have running : engine.stopped = false := by
    obtain ⟨compiler, _, rfl⟩ := Traced.map_result_ok created
    rfl
  have opened : (world.session settings workspace).result = .ok ⟨world.around, world.launches, engine⟩ := by
    simp [World.session, created, Except.map]
  have linted := (session_lint running document).trans answered
  simp only [lintOnce, opened, linted, Ending.after]
  cases failed : result.failed with
  | false =>
    obtain ⟨text, told⟩ := @account_passed world.around.cwd document workspace result
      ((⟨world.around, world.launches, engine⟩ : Session).lint document).state.engine.collection.entries failed
    simp [told, Ending.said]
  | true =>
    split
    · simp [Ending.faulted]
    · simp [Ending.said]

end CommandLine

namespace Engine

/-- A run whose process ran to its end fails exactly where there is something to report that is not hidden, so its
verdict is the right one exactly where nothing is hidden. A one-time report ends with zero just as well. -/
theorem fails_iff_reports {run : Run} {stdout stderr : Text} {code : Int}
    (completes : run.Completes stdout stderr code) :
    ∃ result, run.outcome.result = .ok result ∧
      (result.verdict = .failure ↔ run.call.launch.Reports ∧ ¬ run.call.launch.Hides) ∧
      (result.verdict = .success ↔ ¬ (run.call.launch.Reports ∧ ¬ run.call.launch.Hides)) ∧
      ((result.verdict = .failure ↔ run.call.launch.Reports) ↔ ¬ run.call.launch.Hides) ∧
      ∀ (world : World) (settings : Settings) (document workspace : Text),
        (create world.around settings workspace).result = .ok run.engine →
        run = CommandLine.onceRun world run.engine document →
        ((CommandLine.lintOnce world settings document workspace).code = .ok 0 ↔
          ¬ (run.call.launch.Reports ∧ ¬ run.call.launch.Hides)) := by
  obtain ⟨result, answered, verdict⟩ := completes.verdict
  have failure : result.verdict = .failure ↔ run.call.launch.Reports ∧ ¬ run.call.launch.Hides := by
    rw [verdict]
    split
    next reports => exact iff_of_true rfl reports
    next silent => exact iff_of_false (by simp) silent
  have success : result.verdict = .success ↔ ¬ (run.call.launch.Reports ∧ ¬ run.call.launch.Hides) := by
    rw [verdict]
    split
    next reports => exact iff_of_false (by simp) (not_not.mpr reports)
    next silent => exact iff_of_true rfl silent
  refine ⟨result, answered, failure, success, ?_, ?_⟩
  · rw [failure]
    by_cases hides : run.call.launch.Hides
    · simp [hides, Launch.reports_of_hides hides]
    · simp [hides]
  · intro world settings document workspace created once
    have passed : result.failed = false ↔ result.verdict = .success := by
      rw [Lint.Result.failed, verdict]
      split <;> simp [Lint.Verdict.failed]
    rw [once] at answered
    rw [CommandLine.lintOnce_code created answered, passed, success]

/-- A compiler that fails and says why on the other stream only. -/
theorem fails_iff_reports_stdout :
    let around := Surroundings.ofPrograms "/w".toList [("/w".toList, ["a.v".toList])] [(['v'], "/bin/v".toList)] none
    let world : World := ⟨around, .absent, 1, [.exited "a.v:1:2: x".toList [] 1]⟩
    ∃ engine, (create around [] "/w".toList).result = .ok engine ∧
      let run := CommandLine.onceRun world engine "/w/a.v".toList
      run.Completes "a.v:1:2: x".toList [] 1 ∧
        (∃ result, run.outcome.result = .ok result ∧ result.verdict = .failure) ∧
        (CommandLine.lintOnce world [] "/w/a.v".toList "/w".toList).code ≠ .ok 0 := by
  intro around world
  refine ⟨_, rfl, ?_⟩
  intro run
  have completes : run.Completes "a.v:1:2: x".toList [] 1 :=
    ⟨rfl, List.isEmpty_eq_false_iff.mp (by decide +kernel), rfl, by decide +kernel⟩
  have reports : run.call.launch.Reports ∧ ¬ run.call.launch.Hides := by decide +kernel
  obtain ⟨result, answered, failure, _, _, once⟩ := fails_iff_reports completes
  refine ⟨completes, ⟨result, answered, failure.mpr reports⟩, fun passed => ?_⟩
  exact (once world [] "/w/a.v".toList "/w".toList rfl rfl).mp passed reports

/-- An empty line on the error stream hides what a failed compiler says, and the report is that nothing was
found. -/
theorem blank_error_stream_hides_failure :
    let around := Surroundings.ofPrograms "/w".toList [("/w".toList, ["a.v".toList])] [(['v'], "/bin/v".toList)] none
    let launch : Launch := .exited "a.v:1:2: x".toList ['\n'] 1
    let world : World := ⟨around, .absent, 1, [launch]⟩
    launch.Reports ∧
      (∃ engine result, (create around [] "/w".toList).result = .ok engine ∧
        (CommandLine.onceRun world engine "/w/a.v".toList).outcome.result = .ok result ∧
        result.verdict = .success) ∧
      (CommandLine.lintOnce world [] "/w/a.v".toList "/w".toList).code = .ok 0 := by
  intro around launch world
  obtain ⟨engine, created⟩ : ∃ engine, (create around [] "/w".toList).result = .ok engine := ⟨_, rfl⟩
  have hides : launch.Hides := by decide +kernel
  have completes : (CommandLine.onceRun world engine "/w/a.v".toList).Completes "a.v:1:2: x".toList ['\n'] 1 := by
    obtain rfl := Except.ok.inj created
    exact ⟨rfl, List.isEmpty_eq_false_iff.mp (by decide +kernel), rfl, by decide +kernel⟩
  obtain ⟨result, answered, verdict⟩ := completes.verdict
  have success : result.verdict = .success := verdict.trans (if_neg fun reports => reports.2 hides)
  have passed : result.failed = false := by rw [Lint.Result.failed, success]; rfl
  exact ⟨Launch.reports_of_hides hides, ⟨engine, result, created, answered, success⟩,
    (CommandLine.lintOnce_code created answered).mpr passed⟩

end Engine

end VDiagnostics
