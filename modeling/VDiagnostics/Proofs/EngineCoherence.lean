import VDiagnostics.Proofs.RunOutcomes
import VDiagnostics.Proofs.StorePolicy

/-! What is shown is what is stored, after any runs whatever. Both are the diagnostics of the latest output
that a compiler gave, and every other run leaves them in place. -/

namespace VDiagnostics

namespace Engine

open Grouping

structure IsFresh (engine : Engine) : Prop where
  emptied : engine.collection.entries = []
  unshown : engine.state.diagnostics = []

theorem create_fresh {around : Surroundings} {settings : Settings} {root : Text} {engine : Engine}
    (created : (create around settings root).result = .ok engine) : engine.IsFresh := by
  obtain ⟨compiler, _, rfl⟩ := Traced.map_result_ok created
  exact ⟨rfl, rfl⟩

/-- The runs that a list of calls leads to, each from what the one before left. -/
def history (engine : Engine) : List Call → List Run
  | [] => []
  | call :: rest => ⟨engine, call⟩ :: history (⟨engine, call⟩ : Run).outcome.state rest

def after (engine : Engine) : List Call → Engine
  | [] => engine
  | call :: rest => after (⟨engine, call⟩ : Run).outcome.state rest

def lastSaid (runs : List Run) : Option Text :=
  (runs.filterMap Run.said).getLast?

/-- No fault came up while an output was stored. -/
def Run.Applies (run : Run) : Prop :=
  run.said.all fun output =>
    (Lint.apply run.engine.collection run.call.document run.engine.workspace output).result.isOk

instance (run : Run) : Decidable run.Applies :=
  inferInstanceAs (Decidable (_ = true))

/-- The entries are the diagnostics of an output by file, or none without an output. -/
def Holds (workspace : Text) (entries : Keyed (List Diagnostic)) : Option Text → Prop
  | none => entries = []
  | some output => ∃ format diagnostics,
      (Extraction.diagnostics workspace output).result = .ok (format, diagnostics) ∧ entries = byFile diagnostics

structure Coherent (engine : Engine) (said : Option Text) : Prop where
  shown : engine.state.diagnostics = engine.collection.entries
  stored : Holds engine.workspace engine.collection.entries said

/-- An output either breaks the run off or is stored, shown and reported as what was read from it. -/
theorem digest_cases (engine : Engine) (document output : Text) :
    let digested := engine.digest document output
    (∃ fault, (Lint.apply engine.collection document engine.workspace output).result = .error fault ∧
        digested.result = .error fault) ∨
      ∃ format found, (Extraction.records output).result = .ok (format, found) ∧
        digested.result = .ok (StorePolicy.report document engine.workspace output format found) ∧
        digested.state.collection.entries = byFile (Extraction.place engine.workspace format found) ∧
        digested.state.state.diagnostics = byFile (Extraction.place engine.workspace format found) := by
  cases applied : (Lint.apply engine.collection document engine.workspace output).result with
  | error fault => exact .inl ⟨fault, rfl, by simp [digest, applied, Outcome.after, Traced.fail]⟩
  | ok result =>
    obtain ⟨opened, format, found, read, rfl⟩ := StorePolicy.apply_answered applied
    have stored := (StorePolicy.apply_open document engine.workspace opened read).2
    have reached :
        (StorePolicy.report document engine.workspace output format found).verdict ≠ .invocationFailed := by
      unfold StorePolicy.report
      split <;> simp
    refine .inr ⟨format, found, read, ?_, ?_, ?_⟩
    · simp [digest, applied, Outcome.after, publish, Traced.note]
    · simp [digest, applied, stored, Outcome.after, publish]
    · simp [digest, applied, stored, Outcome.after, publish, Lint.State.update, reached]

theorem workspace_digest (engine : Engine) (document output : Text) :
    (engine.digest document output).state.workspace = engine.workspace := by
  unfold digest
  simp only [Outcome.after]
  split <;> rfl

private theorem workspace_outcome (run : Run) : run.outcome.state.workspace = run.engine.workspace := by
  cases run.ended with
  | broken fault result state silent starts => rw [state]
  | withheld verdict error reason silent starts result state => rw [state]; rfl
  | digested output said once result state => rw [state, workspace_digest]

private theorem workspace_history {engine : Engine} {calls : List Call} :
    ∀ run ∈ engine.history calls, run.engine.workspace = engine.workspace := by
  induction calls generalizing engine with
  | nil => simp [history]
  | cons call rest ih =>
    refine List.forall_mem_cons.mpr ⟨rfl, fun run member => ?_⟩
    rw [ih run member, workspace_outcome]

theorem workspace_after (engine : Engine) (calls : List Call) :
    (engine.after calls).workspace = engine.workspace := by
  induction calls generalizing engine with
  | nil => rfl
  | cons call rest ih => exact (ih _).trans (workspace_outcome _)

/-- One run keeps what is shown in step with what is stored. A run that the compiler said something in goes
over to that, and any other leaves everything in place. -/
theorem Coherent.step {run : Run} {said : Option Text} (coherent : Coherent run.engine said)
    (applies : run.Applies) : Coherent run.outcome.state (run.said.or said) := by
  cases run.ended with
  | broken fault result state silent starts =>
    rw [state, silent, Option.none_or]
    exact coherent
  | withheld verdict error reason silent starts result state =>
    rw [state, silent, Option.none_or]
    refine ⟨?_, coherent.stored⟩
    by_cases failed : verdict = .invocationFailed
    · simpa [publish, Lint.State.update, Lint.Result.without, failed] using coherent.shown
    · simp [publish, Lint.State.update, Lint.Result.without, failed]
  | digested output said once result state =>
    rw [state, said, Option.some_or]
    rcases digest_cases run.engine run.call.document output with ⟨fault, failed, _⟩ |
      ⟨format, found, read, _, stored, shown⟩
    · simp [Run.Applies, said, failed, Except.isOk, Except.toBool] at applies
    · refine ⟨shown.trans stored.symm, format, _, ?_, stored⟩
      rw [workspace_digest]
      exact StorePolicy.diagnostics_of_records read

theorem Coherent.after {engine : Engine} {said : Option Text} {calls : List Call}
    (coherent : Coherent engine said) (applies : ∀ run ∈ engine.history calls, run.Applies) :
    Coherent (engine.after calls) ((lastSaid (engine.history calls)).or said) := by
  induction calls generalizing engine said with
  | nil => exact coherent
  | cons call rest ih =>
    obtain ⟨first, others⟩ := List.forall_mem_cons.mp applies
    have later := ih (coherent.step first) others
    have same : (lastSaid (engine.history (call :: rest))).or said =
        (lastSaid ((⟨engine, call⟩ : Run).outcome.state.history rest)).or
          ((⟨engine, call⟩ : Run).said.or said) := by
      cases spoken : (⟨engine, call⟩ : Run).said with
      | none => simp [history, lastSaid, spoken]
      | some output => simp [history, lastSaid, spoken, List.getLast?_cons]
    rw [same]
    exact later

/-- What a run does to the collection and which processes it starts, by how it ends. -/
structure Run.Orderly (workspace : Text) (run : Run) : Prop where
  skipped : run.EndsAs .skipped → run.starts = [] ∧ run.outcome.state.collection = run.engine.collection
  failed : run.EndsAs .invocationFailed → run.outcome.state.collection = run.engine.collection
  broken : ∀ fault, run.outcome.result = .error fault → run.said = none → run.outcome.state = run.engine
  started : run.starts = [] ∨ run.StartsOnce workspace
  finished : run.EndsAs .success ∨ run.EndsAs .failure → run.StartsOnce workspace

theorem Run.verdict_of_endsAs {run : Run} {verdict : Lint.Verdict} {result : Lint.Result}
    (ends : run.EndsAs verdict) (answered : run.outcome.result = .ok result) : result.verdict = verdict := by
  obtain ⟨found, same, rfl⟩ := ends
  rw [answered] at same
  cases same
  rfl

theorem Run.not_endsAs {run : Run} {fault : Fault} (failed : run.outcome.result = .error fault)
    (verdict : Lint.Verdict) : ¬ run.EndsAs verdict := by
  rintro ⟨found, answered, _⟩
  rw [failed] at answered
  cases answered

theorem verdict_digest {engine : Engine} {document output : Text} {result : Lint.Result}
    (answered : (engine.digest document output).result = .ok result) :
    result.verdict = .success ∨ result.verdict = .failure := by
  rcases digest_cases engine document output with ⟨fault, _, failed⟩ | ⟨format, found, _, reported, _⟩
  · rw [failed] at answered
    cases answered
  · rw [reported] at answered
    cases answered
    exact ite_eq_or_eq _ _ _

theorem Run.verdict_of_digested {run : Run} {output : Text} {verdict : Lint.Verdict}
    (digested : run.outcome.result = (run.engine.digest run.call.document output).result)
    (ends : run.EndsAs verdict) : verdict = .success ∨ verdict = .failure := by
  obtain ⟨found, answered, rfl⟩ := ends
  exact verdict_digest (digested.symm.trans answered)

theorem Run.orderly (run : Run) : run.Orderly run.engine.workspace := by
  cases run.ended with
  | broken fault result state silent starts =>
    have unanswered := Run.not_endsAs result
    exact {
      skipped := fun ends => absurd ends (unanswered _)
      failed := fun ends => absurd ends (unanswered _)
      broken := fun _ _ _ => state
      started := starts
      finished := fun ends => (ends.elim (unanswered _) (unanswered _)).elim }
  | withheld verdict error reason silent starts result state =>
    have kept : run.outcome.state.collection = run.engine.collection := by rw [state]; rfl
    have only {other : Lint.Verdict} (ends : run.EndsAs other) : verdict = other := Run.verdict_of_endsAs ends result
    refine ⟨fun ends => ⟨?_, kept⟩, fun _ => kept, ?_, starts, ?_⟩
    · rcases reason with ⟨_, starts⟩ | rfl
      · exact starts
      · cases only ends
    · intro fault failed
      rw [result] at failed
      cases failed
    · rcases reason with ⟨rfl, _⟩ | rfl
      all_goals
        intro ends
        rcases ends with ends | ends <;> cases only ends
  | digested output said once result state =>
    refine ⟨?_, ?_, ?_, .inr once, fun _ => once⟩
    · intro ends
      rcases Run.verdict_of_digested result ends with same | same <;> cases same
    · intro ends
      rcases Run.verdict_of_digested result ends with same | same <;> cases same
    · intro fault _ silent
      rw [said] at silent
      cases silent

/-- However runs follow each other, what is shown is what is stored: the diagnostics, by file, of the latest output
that a compiler gave. A run that did not get so far changes nothing in the collection. A run starts at most one
process, the compiler in the workspace, and one that got so far has started it. -/
theorem shown_eq_stored {engine : Engine} (fresh : engine.IsFresh) (calls : List Call) :
    (∀ run ∈ engine.history calls, run.Orderly engine.workspace) ∧
      ((∀ run ∈ engine.history calls, run.Applies) →
        (engine.after calls).state.diagnostics = (engine.after calls).collection.entries ∧
          Holds engine.workspace (engine.after calls).collection.entries (lastSaid (engine.history calls))) := by
  refine ⟨fun run member => ?_, fun applies => ?_⟩
  · rw [← workspace_history run member]
    exact run.orderly
  · have start : Coherent engine none := ⟨fresh.unshown.trans fresh.emptied.symm, fresh.emptied⟩
    have final := start.after applies
    rw [Option.or_none] at final
    refine ⟨final.shown, ?_⟩
    rw [← workspace_after engine calls]
    exact final.stored

/-- A run that finds something, and then runs that store nothing: outside the workspace, with a process that cannot
be started, in a folder that cannot be listed, with output that is no text, and for a name that the system does not
take. -/
theorem shown_eq_stored_unfinished :
    let around := Surroundings.ofPrograms "/w".toList [("/w".toList, ["a.v".toList])] [(['v'], "/bin/v".toList)] none
    let spoken : Launch := .exited [] "warning: a.v:1:2: x".toList 1
    let calls : List Call := [⟨around, spoken, "/w/a.v".toList⟩, ⟨around, spoken, "/x/a.v".toList⟩,
      ⟨around, .refused "gone".toList, "/w/a.v".toList⟩, ⟨around, spoken, "/w/sub/a.v".toList⟩,
      ⟨around, .failed .undecodableOutput, "/w/a.v".toList⟩, ⟨around, spoken, "/w/a\x00.v".toList⟩]
    ∃ engine, (create around [] "/w".toList).result = .ok engine ∧
      (∀ run ∈ engine.history calls, run.Applies) ∧
      (engine.history calls).map (fun run => (run.outcome.result.map Lint.Result.verdict, run.starts.length)) =
        [(.ok .failure, 1), (.ok .skipped, 0), (.ok .invocationFailed, 1), (.error (.noDirectory "/w/sub".toList), 0),
          (.error .undecodableOutput, 1), (.error .nullInPath, 0)] ∧
      (engine.after calls).state.diagnostics = (engine.after calls).collection.entries ∧
      (engine.after calls).collection.entries = [("/w/a.v".toList,
        [Diagnostic.ofRecord "/w".toList .warning ⟨"a.v".toList, .known 1, .known 2, ['x'], []⟩])] := by
  intro around spoken calls
  refine ⟨_, rfl, by decide +kernel, by decide +kernel, ?_, by decide +kernel⟩
  exact ((shown_eq_stored (@create_fresh around [] "/w".toList _ rfl) calls).2 (by decide +kernel)).1

/-- A flag that is no text ends a run before anything is started, and without a text for the compiler there is no
engine. -/
example :
    let around := Surroundings.ofPrograms "/w".toList [("/w".toList, ["a.v".toList])] [(['v'], "/bin/v".toList)] none
    let run (engine : Engine) : Run := ⟨engine, ⟨around, .silent, "/w/a.v".toList⟩⟩
    (((create around [(Settings.flagsKey, .list [.int 1])] "/w".toList).map run).result.map fun run =>
        (run.outcome.result.map Lint.Result.verdict, run.starts.length)) = .ok (.error .unusableSetting, 0) ∧
      ((create around [(Settings.compilerKey, .null)] "/w".toList).map fun _ => ()).result =
        .error .unusableSetting := by
  decide +kernel

end Engine

end VDiagnostics
