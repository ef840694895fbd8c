import VDiagnostics.Collection
import VDiagnostics.Proofs.KeyedEntries

/-! Diagnostics by file, with the files in the order in which they first occur. Appending diagnostics
one by one to a collection amounts to this grouping, however the files are interleaved. -/

namespace VDiagnostics

namespace Grouping

/-- The files of diagnostics, each once, in the order in which they first occur. -/
def files (diagnostics : List Diagnostic) : List Text :=
  (diagnostics.map Diagnostic.file).eraseDups

def ofFile (file : Text) (diagnostics : List Diagnostic) : List Diagnostic :=
  diagnostics.filter fun diagnostic => diagnostic.file = file

def byFile (diagnostics : List Diagnostic) : Keyed (List Diagnostic) :=
  (files diagnostics).map fun file => (file, ofFile file diagnostics)

@[simp] theorem byFile_nil : byFile [] = [] := rfl

theorem mem_files {file : Text} {diagnostics : List Diagnostic} :
    file ∈ files diagnostics ↔ ∃ diagnostic ∈ diagnostics, diagnostic.file = file := by
  simp [files]

@[simp] theorem keys_byFile (diagnostics : List Diagnostic) :
    Keyed.keys (byFile diagnostics) = files diagnostics := by
  simp [Keyed.keys, byFile, Function.comp_def]

private theorem files_cons (first : Diagnostic) (rest : List Diagnostic) :
    files (first :: rest) =
      first.file :: files (rest.filter fun diagnostic => diagnostic.file ≠ first.file) := by
  simp [files, List.eraseDups_cons, List.filter_map, Function.comp_def, ← Bool.beq_eq_decide_eq]

private theorem files_concat (front : List Diagnostic) (last : Diagnostic) :
    files (front ++ [last]) =
      if last.file ∈ files front then files front else files front ++ [last.file] := by
  simp only [files, List.map_append, List.map_singleton, Keyed.eraseDups_concat, List.mem_eraseDups]

theorem files_nodup (diagnostics : List Diagnostic) : (files diagnostics).Nodup :=
  Keyed.nodup_eraseDups _

private theorem ofFile_concat (file : Text) (front : List Diagnostic) (last : Diagnostic) :
    ofFile file (front ++ [last]) = ofFile file front ++ if last.file = file then [last] else [] := by
  by_cases same : last.file = file <;> simp [ofFile, same]

private theorem ofFile_of_not_mem {file : Text} {diagnostics : List Diagnostic} (absent : file ∉ files diagnostics) :
    ofFile file diagnostics = [] := by
  apply List.filter_eq_nil_iff.mpr
  intro diagnostic member same
  exact absent (mem_files.mpr ⟨diagnostic, member, by simpa using same⟩)

theorem find?_byFile (file : Text) (diagnostics : List Diagnostic) :
    (Keyed.find? file (byFile diagnostics)).getD [] = ofFile file diagnostics := by
  rw [byFile, Keyed.find?_table]
  split
  · rfl
  next absent => rw [ofFile_of_not_mem absent]; rfl

/-- One diagnostic more joins those of its file, or brings its file in at the end. -/
theorem byFile_concat (front : List Diagnostic) (last : Diagnostic) :
    byFile (front ++ [last]) =
      Keyed.put last.file ((Keyed.find? last.file (byFile front)).getD [] ++ [last]) (byFile front) := by
  rw [find?_byFile]
  by_cases known : last.file ∈ files front
  · rw [byFile, byFile, files_concat, if_pos known, Keyed.put_table_present (files_nodup front) known]
    apply List.map_congr_left
    intro file _
    by_cases same : file = last.file
    · subst same
      simp [ofFile_concat]
    · simp [ofFile_concat, same, Ne.symm same]
  · have absent : last.file ∉ Keyed.keys (byFile front) := by rwa [keys_byFile]
    rw [Keyed.put_absent absent, ofFile_of_not_mem known, byFile, files_concat, if_neg known, List.map_append]
    congr 1
    · apply List.map_congr_left
      intro file member
      have different : last.file ≠ file := fun same => known (same ▸ member)
      simp [ofFile_concat, different]
    · simp [ofFile_concat, ofFile_of_not_mem known]

theorem byFile_cons (first : Diagnostic) (rest : List Diagnostic) :
    byFile (first :: rest) =
      (first.file, first :: ofFile first.file rest) ::
        byFile (rest.filter fun diagnostic => diagnostic.file ≠ first.file) := by
  rw [byFile, files_cons, List.map_cons, byFile]
  congr 1
  · simp [ofFile]
  · apply List.map_congr_left
    intro file member
    obtain ⟨diagnostic, inside, same⟩ := mem_files.mp member
    have different : first.file ≠ file := by
      intro equal
      simp [same, equal] at inside
    simp only [ofFile, different, decide_false, Bool.false_eq_true, not_false_eq_true, List.filter_cons_of_neg,
      List.filter_filter, Prod.mk.injEq, true_and]
    apply List.filter_congr
    intro other _
    by_cases hit : other.file = file <;> simp [hit, Ne.symm different]

theorem byFile_perm (diagnostics : List Diagnostic) :
    ((byFile diagnostics).flatMap Prod.snd).Perm diagnostics := by
  cases diagnostics with
  | nil => simp
  | cons first rest =>
    rw [byFile_cons, List.flatMap_cons, List.cons_append]
    apply List.Perm.cons
    have others := byFile_perm (rest.filter fun diagnostic => diagnostic.file ≠ first.file)
    have whole := List.filter_append_perm (fun diagnostic => decide (diagnostic.file = first.file)) rest
    simp only [← decide_not] at whole
    exact (others.append_left _).trans whole
termination_by diagnostics.length
decreasing_by exact Nat.lt_succ_of_le (List.length_filter_le _ _)

/-- Each file of a grouping has diagnostics, and they are its own. -/
theorem byFile_own {diagnostics : List Diagnostic} {entry : Text × List Diagnostic}
    (member : entry ∈ byFile diagnostics) :
    entry.2 ≠ [] ∧ ∀ diagnostic ∈ entry.2, diagnostic.file = entry.1 := by
  obtain ⟨file, present, rfl⟩ := List.mem_map.mp member
  obtain ⟨diagnostic, inside, same⟩ := mem_files.mp present
  refine ⟨?_, ?_⟩
  · exact List.ne_nil_of_mem (List.mem_filter.mpr ⟨inside, by simpa using same⟩)
  · intro other held
    simpa using (List.mem_filter.mp held).2

end Grouping

end VDiagnostics
