import VDiagnostics.Lint.Apply
import VDiagnostics.Proofs.Grouping

/-! What a run leaves in the collection. Deleting, replacing and accumulating all amount to one grouping
of the diagnostics that the output gives, and nothing of an earlier run remains. -/

namespace VDiagnostics

namespace StorePolicy

open Grouping

theorem change_open {collection : Collection} (opened : collection.disposed = false)
    (f : Keyed (List Diagnostic) → Keyed (List Diagnostic)) :
    collection.change f = .ok { collection with entries := f collection.entries } := by
  simp [Collection.change, opened]

private theorem store_warning {collection : Collection} {front : List Diagnostic} {diagnostic : Diagnostic}
    (opened : collection.disposed = false) (grouped : collection.entries = byFile front)
    (warning : diagnostic.severity = .warning) :
    Lint.store collection diagnostic =
      .ok { collection with entries := byFile (front ++ [diagnostic]) } := by
  rw [Lint.store, warning, byFile_concat, ← grouped]
  exact change_open opened _

private theorem store_warnings {collection : Collection} (front diagnostics : List Diagnostic)
    (opened : collection.disposed = false) (grouped : collection.entries = byFile front)
    (warnings : ∀ diagnostic ∈ diagnostics, diagnostic.severity = .warning) :
    diagnostics.foldlM Lint.store collection =
      .ok { collection with entries := byFile (front ++ diagnostics) } := by
  induction diagnostics generalizing collection front with
  | nil => simp [← grouped, pure, Except.pure]
  | cons diagnostic rest ih =>
    have stored := store_warning opened grouped (warnings diagnostic (by simp))
    rw [List.foldlM_cons, stored, List.append_cons front diagnostic rest]
    exact @ih { collection with entries := byFile (front ++ [diagnostic]) } (front ++ [diagnostic]) opened rfl
      (fun other member => warnings other (by simp [member]))

/-- An error replaces what its file has, which is nothing in an emptied collection. -/
private theorem store_error {collection : Collection} (diagnostic : Diagnostic)
    (opened : collection.disposed = false) (emptied : collection.entries = [])
    (error : diagnostic.severity = .error) :
    [diagnostic].foldlM Lint.store collection =
      .ok { collection with entries := byFile [diagnostic] } := by
  have stored : Lint.store collection diagnostic =
      .ok { collection with entries := byFile [diagnostic] } := by
    rw [Lint.store, error, Collection.set, change_open opened, emptied]
    simp [byFile_cons, ofFile, Keyed.put]
  rw [List.foldlM_cons, stored]
  rfl

/-- The format settles how many records there are, but for warnings. -/
theorem records_shape {output : Text} {format : Format} {found : List Record}
    (read : (Extraction.records output).result = .ok (format, found)) :
    (format = .clean ∧ found = []) ∨ (format = .error ∧ ∃ record, found = [record]) ∨ format = .warning := by
  unfold Extraction.records at read
  split at read
  · cases read
    exact .inl ⟨rfl, rfl⟩
  · obtain ⟨record, _, same⟩ := Traced.map_result_ok read
    cases same
    exact .inr (.inl ⟨rfl, record, rfl⟩)
  · obtain ⟨records, _, same⟩ := Traced.map_result_ok read
    cases same
    exact .inr (.inr rfl)

/-- What was read from an output, as the result of a run for a document. -/
def report (document cwd output : Text) (format : Format) (found : List Record) : Lint.Result where
  document := document
  verdict := if format = .clean then .success else .failure
  format := some format
  diagnostics := Extraction.place cwd format found
  output := output
  error := none

private theorem storeAll_open {collection : Collection} {document cwd output : Text} {format : Format}
    {found : List Record} (opened : collection.disposed = false) (emptied : collection.entries = [])
    (read : (Extraction.records output).result = .ok (format, found)) :
    let stored := Lint.storeAll collection document cwd output format found
    stored.result = .ok (report document cwd output format found) ∧
      stored.state = { collection with entries := byFile (Extraction.place cwd format found) } := by
  rcases records_shape read with ⟨rfl, rfl⟩ | ⟨rfl, record, rfl⟩ | rfl
  · simp [Lint.storeAll, Collection.delete, change_open opened, emptied, Keyed.remove, Extraction.place,
      Format.severity?, report, Traced.note]
  · have stored := store_error (Diagnostic.ofRecord cwd .error record) opened emptied rfl
    simp only [Lint.storeAll, if_true, List.map_singleton, stored]
    exact ⟨rfl, rfl⟩
  · have stored := store_warnings [] (found.map (Diagnostic.ofRecord cwd .warning)) opened emptied
      (by simp [Diagnostic.ofRecord])
    simp only [Lint.storeAll, reduceCtorEq, if_false, stored]
    exact ⟨rfl, rfl⟩

theorem apply_open {collection : Collection} (document cwd : Text) {output : Text} {format : Format}
    {found : List Record} (opened : collection.disposed = false)
    (read : (Extraction.records output).result = .ok (format, found)) :
    let applied := Lint.apply collection document cwd output
    applied.result = .ok (report document cwd output format found) ∧
      applied.state = { collection with entries := byFile (Extraction.place cwd format found) } := by
  have emptied : Collection.clear collection = .ok { collection with entries := [] } := change_open opened _
  simp only [Lint.apply, emptied, read]
  exact storeAll_open opened rfl read

theorem apply_answered {collection : Collection} {document cwd output : Text} {result : Lint.Result}
    (answered : (Lint.apply collection document cwd output).result = .ok result) :
    collection.disposed = false ∧ ∃ format found,
      (Extraction.records output).result = .ok (format, found) ∧
      result = report document cwd output format found := by
  have opened : collection.disposed = false := by
    cases disposed : collection.disposed with
    | false => rfl
    | true => simp [Lint.apply, Collection.clear, Collection.change, disposed, Traced.fail] at answered
  cases read : (Extraction.records output).result with
  | error fault => simp [Lint.apply, Collection.clear, change_open opened, read] at answered
  | ok pair =>
    obtain ⟨format, found⟩ := pair
    have same := (apply_open document cwd opened read).1.symm.trans answered
    exact ⟨opened, format, found, rfl, (Except.ok.inj same).symm⟩

theorem diagnostics_of_records {cwd output : Text} {format : Format} {found : List Record}
    (read : (Extraction.records output).result = .ok (format, found)) :
    (Extraction.diagnostics cwd output).result = .ok (format, Extraction.place cwd format found) := by
  simp [Extraction.diagnostics, Traced.map, read, Except.map]

/-- A run replaces the collection by the diagnostics of its output, grouped by file. None is lost or
repeated, each lies under its own file, and no file is left without any. Neither what the collection
held before nor the document matters. -/
theorem apply_stores_grouping {collection : Collection} {document cwd output : Text} {result : Lint.Result}
    (answered : (Lint.apply collection document cwd output).result = .ok result) :
    (∃ format, (Extraction.diagnostics cwd output).result = .ok (format, result.diagnostics)) ∧
      (Lint.apply collection document cwd output).state =
        { collection with entries := byFile result.diagnostics } ∧
      ((byFile result.diagnostics).flatMap Prod.snd).Perm result.diagnostics ∧
      (∀ entry ∈ byFile result.diagnostics,
        entry.2 ≠ [] ∧ ∀ diagnostic ∈ entry.2, diagnostic.file = entry.1) ∧
      ∀ (other : Collection) (otherDocument : Text), other.disposed = false →
        ∃ otherResult, (Lint.apply other otherDocument cwd output).result = .ok otherResult ∧
          otherResult.diagnostics = result.diagnostics ∧
          (Lint.apply other otherDocument cwd output).state.entries =
            (Lint.apply collection document cwd output).state.entries := by
  obtain ⟨opened, format, found, read, rfl⟩ := apply_answered answered
  have stored := (apply_open document cwd opened read).2
  refine ⟨⟨format, diagnostics_of_records read⟩, stored, byFile_perm _, fun _ => byFile_own, ?_⟩
  intro other otherDocument otherOpened
  obtain ⟨answered, filled⟩ := apply_open otherDocument cwd otherOpened read
  exact ⟨_, answered, rfl, by rw [filled, stored]⟩

/-- Two files in turn, one of them under two names, and an error of an earlier run in the collection. -/
theorem apply_stores_grouping_interleaved :
    let output := "warning: a.v:1:2: x\nwarning: b.v:3:4: y\nwarning: ./a.v:5:6: z".toList
    let old := Diagnostic.ofRecord "/w".toList .error ⟨"b.v".toList, .known 9, .known 9, "old".toList, []⟩
    let collection : Collection := ⟨Diagnostic.source, [("/w/b.v".toList, [old])], false⟩
    let applied := Lint.apply collection "/w/b.v".toList "/w".toList output
    ∃ result, applied.result = .ok result ∧
      applied.state = { collection with entries := byFile result.diagnostics } ∧
      (byFile result.diagnostics).map (fun entry => (entry.1, entry.2.map Diagnostic.message)) =
        [("/w/a.v".toList, [['x'], ['z']]), ("/w/b.v".toList, [['y']])] := by
  intro output old collection applied
  exact ⟨_, rfl, (apply_stores_grouping rfl).2.1, by decide +kernel⟩

end StorePolicy

end VDiagnostics
