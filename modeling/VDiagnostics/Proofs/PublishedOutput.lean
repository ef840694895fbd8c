import VDiagnostics.Proofs.EngineCoherence

/-! Whether the output that is shown is the one that the shown diagnostics come from. A run whose compiler could not
be started keeps both, but a skipped run keeps the diagnostics and takes the output away. -/

namespace VDiagnostics

namespace Engine

structure IsUnused (engine : Engine) : Prop extends engine.IsFresh where
  silent : engine.state.output = []

private theorem create_unused {around : Surroundings} {settings : Settings} {root : Text} {engine : Engine}
    (created : (create around settings root).result = .ok engine) : engine.IsUnused := by
  refine ⟨create_fresh created, ?_⟩
  obtain ⟨compiler, _, rfl⟩ := Traced.map_result_ok created
  rfl

/-- How a run ended, if it has a result. -/
def Run.verdict? (run : Run) : Option Lint.Verdict :=
  run.outcome.result.toOption.map Lint.Result.verdict

/-- How the latest of the runs ended that changed what is shown of the output. -/
def latest? (runs : List Run) : Option Lint.Verdict :=
  ((runs.filterMap Run.verdict?).filter (· ≠ .invocationFailed)).getLast?

private theorem holds_silent {workspace output : Text} {entries : Keyed (List Diagnostic)} (silent : output = []) :
    Holds workspace entries (some output) ↔ entries = [] := by
  subst silent
  constructor
  · rintro ⟨format, diagnostics, read, rfl⟩
    cases read
    rfl
  · rintro rfl
    exact ⟨.clean, [], rfl, rfl⟩

/-- The output belongs to the diagnostics unless the latest run was skipped, which leaves no output. -/
structure Matched (engine : Engine) (latest : Option Lint.Verdict) : Prop where
  shown : engine.state.diagnostics = engine.collection.entries
  told : latest ≠ some .skipped → Holds engine.workspace engine.state.diagnostics (some engine.state.output)
  muted : latest = some .skipped → engine.state.output = []

theorem IsUnused.matched {engine : Engine} (unused : engine.IsUnused) : Matched engine none where
  shown := unused.unshown.trans unused.emptied.symm
  told _ := (holds_silent unused.silent).mpr unused.unshown
  muted skipped := by cases skipped

private theorem output_digest {engine : Engine} {document output : Text} {result : Lint.Result}
    (answered : (engine.digest document output).result = .ok result) :
    (engine.digest document output).state.state.output = output := by
  cases applied : (Lint.apply engine.collection document engine.workspace output).result with
  | error fault => simp [digest, applied, Outcome.after, Traced.fail] at answered
  | ok _ =>
    obtain ⟨_, format, found, _, rfl⟩ := StorePolicy.apply_answered applied
    by_cases clean : format = .clean <;>
      simp [digest, applied, Outcome.after, publish, Lint.State.update, StorePolicy.report, clean]

/-- One run keeps the diagnostics and the output in step, or takes the output away. -/
theorem Matched.step {run : Run} {latest : Option Lint.Verdict} {result : Lint.Result}
    (matched : Matched run.engine latest) (answered : run.outcome.result = .ok result) :
    Matched run.outcome.state
      (if result.verdict = .invocationFailed then latest else some result.verdict) := by
  cases run.ended with
  | broken fault failed => cases failed.symm.trans answered
  | withheld verdict error reason _ _ withheld state =>
    cases withheld.symm.trans answered
    rw [state]
    rcases reason with ⟨rfl, _⟩ | rfl
    · exact ⟨rfl, fun other => absurd rfl other, fun _ => rfl⟩
    · exact ⟨matched.shown, matched.told, matched.muted⟩
  | digested output _ _ digested state =>
    have finished := digested.symm.trans answered
    have reached : result.verdict ≠ .invocationFailed ∧ result.verdict ≠ .skipped := by
      rcases verdict_digest finished with same | same <;> simp [same]
    rw [if_neg reached.1, state]
    rcases digest_cases run.engine run.call.document output with ⟨fault, _, failed⟩ |
      ⟨format, found, read, _, stored, shown⟩
    · cases failed.symm.trans finished
    · refine ⟨shown.trans stored.symm, fun _ => ⟨format, _, ?_, shown⟩,
        fun skipped => absurd (Option.some.inj skipped) reached.2⟩
      rw [output_digest finished, workspace_digest]
      exact StorePolicy.diagnostics_of_records read

private theorem latest?_cons {run : Run} {result : Lint.Result} (answered : run.outcome.result = .ok result)
    (rest : List Run) (before : Option Lint.Verdict) :
    (latest? (run :: rest)).or before =
      (latest? rest).or (if result.verdict = .invocationFailed then before else some result.verdict) := by
  have ended : run.verdict? = some result.verdict := by rw [Run.verdict?, answered]; rfl
  by_cases failed : result.verdict = .invocationFailed
  · simp [latest?, ended, failed]
  · simp [latest?, ended, failed, List.getLast?_cons]

/-- The engine that a run starts from, and the one that all runs lead to, are in step as well. -/
theorem Matched.along {engine : Engine} {calls : List Call} {before : Option Lint.Verdict}
    (matched : Matched engine before) (answered : ∀ run ∈ engine.history calls, run.outcome.result.isOk) :
    (∀ run ∈ engine.history calls, ∃ latest, Matched run.engine latest) ∧
      Matched (engine.after calls) ((latest? (engine.history calls)).or before) := by
  induction calls generalizing engine before with
  | nil => exact ⟨by simp [history], matched⟩
  | cons call rest ih =>
    obtain ⟨first, others⟩ := List.forall_mem_cons.mp answered
    cases finished : (⟨engine, call⟩ : Run).outcome.result with
    | error fault => rw [finished] at first; cases first
    | ok result =>
      have later := ih (matched.step finished) others
      refine ⟨List.forall_mem_cons.mpr ⟨⟨before, matched⟩, later.1⟩, ?_⟩
      rw [history, latest?_cons finished]
      exact later.2

/-- What a run leaves of what was shown before, if it never got to the compiler. -/
structure Run.Unreached (run : Run) : Prop where
  failed : run.EndsAs .invocationFailed →
    run.outcome.state.state.output = run.engine.state.output ∧
      run.outcome.state.state.diagnostics = run.engine.state.diagnostics
  skipped : run.EndsAs .skipped →
    run.outcome.state.state.output = [] ∧
      run.outcome.state.state.diagnostics = run.engine.state.diagnostics

theorem Matched.unreached {run : Run} {latest : Option Lint.Verdict} (matched : Matched run.engine latest) :
    run.Unreached := by
  cases run.ended with
  | broken fault failed =>
    exact ⟨fun ends => absurd ends (Run.not_endsAs failed _), fun ends => absurd ends (Run.not_endsAs failed _)⟩
  | withheld verdict error _ _ _ result state =>
    have only {other : Lint.Verdict} (ends : run.EndsAs other) : verdict = other := Run.verdict_of_endsAs ends result
    refine ⟨fun ends => ?_, fun ends => ?_⟩
    · obtain rfl := only ends
      rw [state]
      exact ⟨rfl, rfl⟩
    · obtain rfl := only ends
      rw [state]
      exact ⟨rfl, matched.shown.symm⟩
  | digested output _ _ digested =>
    refine ⟨fun ends => ?_, fun ends => ?_⟩
    · rcases Run.verdict_of_digested digested ends with same | same <;> cases same
    · rcases Run.verdict_of_digested digested ends with same | same <;> cases same

/-- As long as every run has a result, the shown output gives just the shown diagnostics, unless the latest run
that changed it was skipped while there was something to show. A run whose compiler could not be started leaves
both in place, and a skipped one only the diagnostics. -/
theorem output_describes_diagnostics {engine : Engine} (unused : engine.IsUnused) {calls : List Call}
    (answered : ∀ run ∈ engine.history calls, run.outcome.result.isOk) :
    let shown := (engine.after calls).state
    (Holds engine.workspace shown.diagnostics (some shown.output) ↔
        latest? (engine.history calls) ≠ some .skipped ∨ shown.diagnostics = []) ∧
      ∀ run ∈ engine.history calls, run.Unreached := by
  obtain ⟨along, final⟩ := unused.matched.along answered
  rw [Option.or_none] at final
  refine ⟨⟨fun holds => ?_, fun spoken => ?_⟩, fun run member => ?_⟩
  · by_cases skipped : latest? (engine.history calls) = some .skipped
    · exact .inr ((holds_silent (final.muted skipped)).mp holds)
    · exact .inl skipped
  · by_cases skipped : latest? (engine.history calls) = some .skipped
    · exact (holds_silent (final.muted skipped)).mpr (spoken.resolve_left (not_not_intro skipped))
    · rw [← workspace_after engine calls]
      exact final.told skipped
  · obtain ⟨latest, matched⟩ := along run member
    exact matched.unreached

/-- A skipped run, one that finds something and one whose process cannot be started. -/
theorem output_describes_diagnostics_unreached :
    let around := Surroundings.ofPrograms "/w".toList [("/w".toList, ["a.v".toList])] [(['v'], "/bin/v".toList)] none
    let spoken : Launch := .exited [] "warning: a.v:1:2: x".toList 1
    let calls : List Call := [⟨around, spoken, "/x/a.v".toList⟩, ⟨around, spoken, "/w/a.v".toList⟩,
      ⟨around, .refused "gone".toList, "/w/a.v".toList⟩]
    ∃ engine, (create around [] "/w".toList).result = .ok engine ∧
      (∀ run ∈ engine.history calls, run.outcome.result.isOk) ∧
      (engine.history calls).map Run.verdict? = [some .skipped, some .failure, some .invocationFailed] ∧
      let shown := (engine.after calls).state
      Holds engine.workspace shown.diagnostics (some shown.output) ∧ shown.diagnostics ≠ [] := by
  intro around spoken calls
  refine ⟨_, rfl, by decide +kernel, by decide +kernel, ?_, by decide +kernel⟩
  have unused := @create_unused around [] "/w".toList _ rfl
  exact (output_describes_diagnostics unused (by decide +kernel)).1.mpr (.inl (by decide +kernel))

/-- A file outside the workspace takes away the output that the diagnostics still come from. -/
theorem skipped_run_mutes :
    let around := Surroundings.ofPrograms "/w".toList [("/w".toList, ["a.v".toList])] [(['v'], "/bin/v".toList)] none
    let spoken : Launch := .exited [] "warning: a.v:1:2: x".toList 1
    let calls : List Call := [⟨around, spoken, "/w/a.v".toList⟩, ⟨around, spoken, "/x/a.v".toList⟩]
    ∃ engine, (create around [] "/w".toList).result = .ok engine ∧
      (∀ run ∈ engine.history calls, run.outcome.result.isOk) ∧
      (engine.history calls).map Run.verdict? = [some .failure, some .skipped] ∧
      let shown := (engine.after calls).state
      shown.output = [] ∧ ¬ Holds engine.workspace shown.diagnostics (some shown.output) := by
  intro around spoken calls
  refine ⟨_, rfl, by decide +kernel, by decide +kernel, by decide +kernel, ?_⟩
  exact (holds_silent (by decide +kernel)).not.mpr (by decide +kernel)

end Engine

end VDiagnostics
