import VDiagnostics.Proofs.EngineCoherence
import VDiagnostics.Proofs.Legibility

/-! What a run that ends with a fault leaves in the collection. A disposed collection refuses the run before
anything is changed. An open one is cleared before the output is read, so that a numeral too long to be read
leaves it empty, and nothing else can break off a run there. -/

namespace VDiagnostics

namespace FaultedRuns

open Extraction (IsLegible)

variable {collection : Collection} {document cwd output : Text} {fault : Fault}

private theorem apply_disposed (document cwd output : Text) (disposed : collection.disposed = true) :
    Lint.apply collection document cwd output = ⟨.fail (.disposed collection.name), collection⟩ := by
  simp [Lint.apply, Collection.clear, Collection.change, disposed]

private theorem apply_unread (document cwd : Text) (opened : collection.disposed = false)
    (unread : (Extraction.records output).result = .error fault) :
    (Lint.apply collection document cwd output).result = .error fault ∧
      (Lint.apply collection document cwd output).state = { collection with entries := [] } := by
  have emptied : collection.clear = .ok { collection with entries := [] } := StorePolicy.change_open opened _
  simp [Lint.apply, emptied, unread]

/-- Where a fault comes from, and what is left then. -/
theorem apply_fault_cases (failed : (Lint.apply collection document cwd output).result = .error fault) :
    (collection.disposed = true ∧ (Lint.apply collection document cwd output).state = collection) ∨
      (collection.disposed = false ∧ ¬ IsLegible output ∧
        (Lint.apply collection document cwd output).state = { collection with entries := [] }) := by
  by_cases disposed : collection.disposed = true
  · exact .inl ⟨disposed, by rw [apply_disposed document cwd output disposed]⟩
  · have opened : collection.disposed = false := by simpa using disposed
    cases read : (Extraction.records output).result with
    | ok pair =>
      rw [(StorePolicy.apply_open document cwd opened read).1] at failed
      cases failed
    | error cause =>
      refine .inr ⟨opened, ?_, (apply_unread document cwd opened read).2⟩
      rw [← Extraction.records_isOk, read]
      simp [Except.isOk, Except.toBool]

/-- A run is broken off at once by a disposed collection, and later by an illegible output. -/
theorem apply_isOk :
    (Lint.apply collection document cwd output).result.isOk ↔ collection.disposed = false ∧ IsLegible output := by
  cases applied : (Lint.apply collection document cwd output).result with
  | ok result =>
    obtain ⟨opened, format, found, read, _⟩ := StorePolicy.apply_answered applied
    refine iff_of_true rfl ⟨opened, Extraction.records_isOk.mp ?_⟩
    rw [read]
    rfl
  | error fault =>
    refine iff_of_false (by simp [Except.isOk, Except.toBool]) ?_
    rintro ⟨opened, legible⟩
    rcases apply_fault_cases applied with ⟨disposed, _⟩ | ⟨_, illegible, _⟩
    · rw [opened] at disposed
      cases disposed
    · exact illegible legible

/-- A fault cannot cost anything: none can come up once something was changed, or there is nothing to lose. -/
def Endures (collection : Collection) (output : Text) : Prop :=
  collection.disposed = true ∨ collection.entries = [] ∨ IsLegible output

private theorem apply_kept_iff (collection : Collection) (document cwd output : Text) :
    (∀ fault, (Lint.apply collection document cwd output).result = .error fault →
      (Lint.apply collection document cwd output).state = collection) ↔ Endures collection output := by
  constructor
  · intro kept
    cases applied : (Lint.apply collection document cwd output).result with
    | ok result => exact .inr (.inr (apply_isOk.mp (by rw [applied]; rfl)).2)
    | error fault =>
      rcases apply_fault_cases applied with ⟨disposed, _⟩ | ⟨_, _, emptied⟩
      · exact .inl disposed
      · rw [kept fault applied] at emptied
        exact .inr (.inl (congrArg Collection.entries emptied))
  · intro endures fault failed
    rcases apply_fault_cases failed with ⟨_, kept⟩ | ⟨opened, illegible, emptied⟩
    · exact kept
    · rcases endures with disposed | nothing | legible
      · rw [opened] at disposed
        cases disposed
      · rw [emptied, ← nothing]
      · exact absurd legible illegible

private theorem digest_result_error {engine : Engine} : (engine.digest document output).result = .error fault ↔
    (Lint.apply engine.collection document engine.workspace output).result = .error fault := by
  cases applied : (Lint.apply engine.collection document engine.workspace output).result <;>
    simp [Engine.digest, applied, Outcome.after, Engine.publish, Traced.note, Traced.fail]

private theorem digest_state_of_fault {engine : Engine}
    (failed : (Lint.apply engine.collection document engine.workspace output).result = .error fault) :
    (engine.digest document output).state =
      { engine with collection := (Lint.apply engine.collection document engine.workspace output).state } := by
  simp [Engine.digest, failed, Outcome.after]

private theorem digest_kept_iff (engine : Engine) (document output : Text) :
    (∀ fault, (engine.digest document output).result = .error fault →
      (engine.digest document output).state = engine) ↔ Endures engine.collection output := by
  rw [← apply_kept_iff engine.collection document engine.workspace output]
  refine forall_congr' fun fault => ?_
  rw [digest_result_error]
  refine imp_congr_right fun failed => ?_
  rw [digest_state_of_fault failed]
  exact ⟨congrArg Engine.collection, fun kept => by rw [kept]⟩

private theorem run_kept_iff (run : Engine.Run) :
    (∀ fault, run.outcome.result = .error fault → run.outcome.state = run.engine) ↔
      ∀ output ∈ run.said, Endures run.engine.collection output := by
  cases run.ended with
  | broken fault result state silent starts => exact iff_of_true (fun _ _ => state) (by simp [silent])
  | withheld verdict error reason silent starts result state =>
    exact iff_of_true (by simp [result]) (by simp [silent])
  | digested output said once result state =>
    rw [result, state, digest_kept_iff, said]
    simp

/-- A fault leaves the collection as it was exactly where the collection is disposed or has nothing to lose, or the
output is legible. The same goes for the whole engine, and a run that the compiler said nothing in is always safe. -/
theorem fault_keeps_collection (collection : Collection) (document cwd output : Text) :
    ((∀ fault, (Lint.apply collection document cwd output).result = .error fault →
        (Lint.apply collection document cwd output).state = collection) ↔ Endures collection output) ∧
      ∀ run : Engine.Run, run.engine.collection = collection →
        ((∀ fault, run.outcome.result = .error fault → run.outcome.state = run.engine) ↔
          ∀ said ∈ run.said, Endures collection said) := by
  refine ⟨apply_kept_iff collection document cwd output, ?_⟩
  rintro run rfl
  exact run_kept_iff run

/-- A run for a collection that was disposed of, once alone and once through an engine, and a run that ends before
anything is stored, in a folder that cannot be listed, for a collection that holds something. -/
theorem fault_keeps_collection_disposed :
    let collection := (Collection.empty Diagnostic.source).dispose
    let output := "warning: a.v:1:2: x".toList
    let around := Surroundings.ofPrograms "/w".toList [("/w".toList, ["a.v".toList])] [(['v'], "/bin/v".toList)] none
    let spoken (document : Text) : Engine.Call := ⟨around, .exited [] output 1, document⟩
    (Lint.apply collection "/w/a.v".toList "/w".toList output).result = .error (.disposed ['V']) ∧
      (Lint.apply collection "/w/a.v".toList "/w".toList output).state = collection ∧
      ∃ engine, (Engine.create around [] "/w".toList).result = .ok engine ∧
        let refused : Engine.Run := ⟨engine.dispose, spoken "/w/a.v".toList⟩
        let lost : Engine.Run := ⟨engine.after [spoken "/w/a.v".toList], spoken "/w/sub/a.v".toList⟩
        (refused.said = some output ∧ refused.outcome.result = .error (.disposed ['V']) ∧
            refused.outcome.state = refused.engine) ∧
          lost.engine.collection.entries ≠ [] ∧ lost.outcome.result = .error (.noDirectory "/w/sub".toList) ∧
            lost.outcome.state = lost.engine := by
  intro collection output around spoken
  have failed : (Lint.apply collection "/w/a.v".toList "/w".toList output).result = .error (.disposed ['V']) := by
    decide +kernel
  obtain ⟨applied, ran⟩ := fault_keeps_collection collection "/w/a.v".toList "/w".toList output
  refine ⟨failed, applied.mpr (.inl rfl) _ failed, _, rfl, ?_⟩
  intro refused lost
  have broken : refused.outcome.result = .error (.disposed ['V']) := by decide +kernel
  have unlisted : lost.outcome.result = .error (.noDirectory "/w/sub".toList) := by decide +kernel
  have silent : lost.said = none := by decide +kernel
  obtain ⟨-, kept⟩ := fault_keeps_collection lost.engine.collection "/w/sub/a.v".toList "/w".toList output
  refine ⟨⟨by decide +kernel, broken, (ran refused rfl).mpr (fun _ _ => .inl rfl) _ broken⟩, by decide +kernel,
    unlisted, (kept lost rfl).mpr (by simp [silent]) _ unlisted⟩

/-- A numeral that is one digit too long wipes what an earlier run found. -/
theorem fault_wipes_collection :
    let old := Diagnostic.ofRecord "/w".toList .warning ⟨"a.v".toList, .known 1, .known 2, ['x'], []⟩
    let collection : Collection := ⟨Diagnostic.source, [("/w/a.v".toList, [old])], false⟩
    let output := WarningList.onesLine 4301
    (∃ fault, (Lint.apply collection "/w/a.v".toList "/w".toList output).result = .error fault) ∧
      (Lint.apply collection "/w/a.v".toList "/w".toList output).state.entries = [] ∧ collection.entries ≠ [] := by
  intro old collection output
  have single : Text.unlines [output] = output := by simp [Text.unlines]
  have whole : ∀ line ∈ [output], '\n' ∉ line := by
    simpa using WarningList.newline_not_mem_onesLine 4301
  have format : Format.ofOutput (Text.unlines [output]) = .warning := by
    rw [Format.ofOutput_eq_warning, Text.startsWith_unlines Format.warningStart_single]
    rfl
  have illegible : ¬ IsLegible (Text.unlines [output]) :=
    Extraction.not_isLegible_ones whole format List.mem_cons_self (by decide)
  rw [single, ← Extraction.records_isOk] at illegible
  have opened : collection.disposed = false := rfl
  cases unread : (Extraction.records output).result with
  | ok pair =>
    rw [unread] at illegible
    exact absurd rfl illegible
  | error fault =>
    obtain ⟨failed, emptied⟩ := apply_unread "/w/a.v".toList "/w".toList opened unread
    exact ⟨⟨fault, failed⟩, congrArg Collection.entries emptied, by simp [collection]⟩

end FaultedRuns

end VDiagnostics
