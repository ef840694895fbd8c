import VDiagnostics.Compiler.Target
import VDiagnostics.Proofs.Debounce
import VDiagnostics.Proofs.NormalPaths

/-! What counts as a source. A path is judged by the suffix of its last name, and a listing by how its names end. The
two agree on every name but the one that is nothing but the ending, which is counted and is no source. -/

namespace VDiagnostics

namespace Path

section Suffixes

/-- A name that is nothing but the ending has no suffix, since its dot comes first. -/
private theorem suffix_concat (stem : Text) :
    suffix (stem ++ sourceExtension) = if stem.isEmpty then [] else sourceExtension := by
  simp [suffix, sourceExtension]

/-- The suffix stands at the end of the name, and something before it. -/
private theorem exists_stem {name : Text} (found : suffix name ≠ []) :
    ∃ stem, stem ≠ [] ∧ name = stem ++ suffix name := by
  have whole := List.takeWhile_append_dropWhile (p := fun c => decide (c ≠ '.')) (l := name.reverse)
  unfold suffix at found ⊢
  dsimp only at found ⊢
  split at found
  next stem cut =>
    split at found
    next => exact absurd rfl found
    next both =>
      have stemFilled : stem ≠ [] := by
        rintro rfl
        exact both rfl
      have spelled : name = (name.reverse.takeWhile (· ≠ '.') ++ '.' :: stem).reverse :=
        List.reverse_eq_iff.mp (by rw [← cut, whole])
      refine ⟨stem.reverse, List.reverse_ne_nil_iff.mpr stemFilled, ?_⟩
      rw [if_neg both]
      simpa using spelled
  next => exact absurd rfl found

private theorem suffix_eq_sourceExtension_iff {name : Text} :
    suffix name = sourceExtension ↔ Text.endsWith sourceExtension name ∧ name ≠ sourceExtension := by
  rw [Text.endsWith, List.isSuffixOf_iff_suffix]
  constructor
  · intro same
    have present : suffix name ≠ [] := by
      rw [same]
      exact List.cons_ne_nil _ _
    obtain ⟨stem, filled, spelled⟩ := exists_stem present
    rw [same] at spelled
    refine ⟨⟨stem, spelled.symm⟩, ?_⟩
    rw [spelled, Ne, List.append_left_eq_self]
    exact filled
  · rintro ⟨⟨stem, rfl⟩, other⟩
    have filled : stem ≠ [] := by
      rintro rfl
      exact other rfl
    rw [suffix_concat, if_neg (by simpa using filled)]

end Suffixes

section Entries

variable {cwd folder name : Text}

private theorem components_entry (named : IsName name) (folder : Text) :
    components (folder ++ '/' :: name) = components folder ++ [name] := by
  rw [components_append_cons, components_name named]

private theorem isRooted_entry (filled : folder ≠ []) (name : Text) :
    isRooted (folder ++ '/' :: name) = isRooted folder := by
  cases folder with
  | nil => exact absurd rfl filled
  | cons c rest => rfl

/-- An entry of a folder is the last that its path names, and nothing takes it away. -/
theorem normalNames_entry (proper : IsProper name) (filled : folder ≠ []) :
    normalNames (folder ++ '/' :: name) = normalNames folder ++ [name] := by
  rw [normalNames, normalNames, isRooted_entry filled, components_entry proper.toIsName, List.foldl_append,
    List.foldl_cons, List.foldl_nil, climb_down proper.descends, List.reverse_cons]

private theorem join_entry (filled : folder ≠ []) (cwd name : Text) :
    join cwd (folder ++ '/' :: name) = join cwd folder ++ '/' :: name := by
  unfold join
  rw [isRooted_entry filled]
  split
  · rfl
  · split
    · rw [List.append_assoc]
    · rw [List.append_assoc, List.cons_append]

private theorem isSource_of_getLast? {path : Text} (last : (components path).getLast? = some name) :
    isSource path = (suffix name == sourceExtension) := by
  rw [isSource, last, Option.getD_some]

private theorem isSource_entry (named : IsName name) (folder : Text) :
    isSource (folder ++ '/' :: name) = (suffix name == sourceExtension) := by
  apply isSource_of_getLast?
  rw [components_entry named, List.getLast?_concat]

/-- The place that a path means, as a normal spelling. -/
def Rooted.ofPlace (path : Text) (rooted : isRooted cwd) : Rooted where
  slashes := if isRooted path then 1 else rootSlashes cwd
  names := normalNames (join cwd path)
  starts := by
    split
    · exact Nat.one_pos
    · exact rootSlashes_pos_iff.mpr rooted
  few := by
    split
    · decide
    · exact rootSlashes_le cwd
  proper := isProper_normalNames (isRooted_join rooted path)

private theorem place_eq (rooted : isRooted cwd) (path : Text) :
    place cwd path = (Rooted.ofPlace path rooted).path := by
  change place cwd path = spell (if isRooted path then 1 else rootSlashes cwd) (normalNames (join cwd path))
  rw [place]
  cases start : isRooted path with
  | true => rw [join_rooted start, if_pos rfl, if_pos rfl]
  | false =>
    rw [if_neg Bool.false_ne_true, if_neg Bool.false_ne_true, absolute, normalize, rootSlashes_join rooted start]

private theorem normalNames_join_entry (rooted : isRooted cwd) (proper : IsProper name) (filled : folder ≠ []) :
    normalNames (join cwd (folder ++ '/' :: name)) = normalNames (join cwd folder) ++ [name] := by
  have joined : join cwd folder ≠ [] := by
    intro empty
    have start := isRooted_join rooted folder
    rw [empty] at start
    cases start
  rw [join_entry filled, normalNames_entry proper joined]

/-- The place of an entry is in the place of its folder. -/
theorem folder_place (rooted : isRooted cwd) (proper : IsProper name) (filled : folder ≠ []) :
    Path.folder (place cwd (folder ++ '/' :: name)) = place cwd folder := by
  rw [place_eq rooted, place_eq rooted, folder_path]
  simp only [Rooted.folder, Rooted.ofPlace, isRooted_entry filled, normalNames_join_entry rooted proper filled,
    List.dropLast_concat]

/-- Whether an entry is a source does not depend on how its place is spelled. -/
theorem isSource_path (rooted : isRooted cwd) (proper : IsProper name) (filled : folder ≠ []) (place : Rooted)
    (means : place.names = normalNames (join cwd (folder ++ '/' :: name))) :
    isSource place.path = isSource (folder ++ '/' :: name) := by
  rw [isSource_entry proper.toIsName]
  apply isSource_of_getLast?
  rw [Rooted.components_path, means, normalNames_join_entry rooted proper filled, List.getLast?_concat]

private theorem isSource_place (rooted : isRooted cwd) (proper : IsProper name) (filled : folder ≠ []) :
    isSource (place cwd (folder ++ '/' :: name)) = isSource (folder ++ '/' :: name) := by
  rw [place_eq rooted]
  exact isSource_path rooted proper filled _ rfl

private theorem isSource_absolute (rooted : isRooted cwd) (proper : IsProper name) (filled : folder ≠ []) :
    isSource (absolute cwd (folder ++ '/' :: name)) = isSource (folder ++ '/' :: name) :=
  isSource_path rooted proper filled (Rooted.ofPath _ (isRooted_join rooted _)) rfl

/-- The two tests differ on one name. -/
theorem isSource_entry_iff (named : IsName name) (folder : Text) :
    isSource (folder ++ '/' :: name) ↔ Text.endsWith sourceExtension name ∧ name ≠ sourceExtension := by
  rw [isSource_entry named, beq_iff_eq, suffix_eq_sourceExtension_iff]

end Entries

/-- Every name that ends like a source is counted, so one that is nothing but the ending is one too many. -/
theorem countSources_eq {names : List Text} (named : ∀ name ∈ names, IsName name) (folder : Text) :
    countSources names =
      names.countP (fun name => isSource (folder ++ '/' :: name)) + names.count sourceExtension := by
  induction names with
  | nil => rfl
  | cons name rest ih =>
    obtain ⟨first, others⟩ := List.forall_mem_cons.mp named
    have judged := isSource_entry_iff first folder
    have counted := ih others
    rw [countSources] at counted ⊢
    rw [List.countP_cons, List.countP_cons, List.count_cons, counted]
    by_cases hidden : name = sourceExtension
    · have ends : Text.endsWith sourceExtension name := by rw [hidden]; decide
      have apart : ¬ isSource (folder ++ '/' :: name) := fun source => (judged.mp source).2 hidden
      rw [if_pos ends, if_neg apart, if_pos (beq_iff_eq.mpr hidden)]
      omega
    · have differs : ¬ (name == sourceExtension) = true := by simpa using hidden
      rw [and_iff_left hidden] at judged
      rw [Bool.eq_iff_iff.mpr judged, if_neg differs]
      omega

end Path

namespace Files

open VDiagnostics.Path (IsProper)

/-- How the sources of a folder are counted, and how each entry is judged: for itself, as a document that is opened
and as a file that is saved. No folder has an empty path. -/
structure Tally (files : Files) (folder : Text) (names : List Text) : Prop where
  counted : files.countSources folder = .ok
    (names.countP (fun name => Path.isSource (folder ++ '/' :: name)) + names.count Path.sourceExtension)
  agree : files.countSources folder = .ok (names.countP fun name => Path.isSource (folder ++ '/' :: name)) ↔
    Path.sourceExtension ∉ names
  opened : ∀ cwd, Path.isRooted cwd → folder ≠ [] → ∀ name ∈ names,
    Path.isSource (Path.absolute cwd (folder ++ '/' :: name)) = Path.isSource (folder ++ '/' :: name)
  watched : ∀ cwd, Path.isRooted cwd → folder ≠ [] → ∀ name ∈ names,
    ∀ (clock : Type) (window : Option clock) (start : clock) (watch : Watch clock),
      Watch.ofFolder cwd folder window start = .ok watch →
        watch.covers (Path.place cwd (folder ++ '/' :: name)) = Path.isSource (folder ++ '/' :: name)

/-- Where a folder can be listed, just the names that are nothing but the ending are counted without being sources. -/
theorem tally {files : Files} {folder : Text} {names : List Text} (found : files.list folder = .ok names)
    (proper : ∀ name ∈ names, IsProper name) : files.Tally folder names := by
  have counted : files.countSources folder = .ok
      (names.countP (fun name => Path.isSource (folder ++ '/' :: name)) + names.count Path.sourceExtension) := by
    rw [countSources, found, ← Path.countSources_eq (fun name member => (proper name member).toIsName)]
    rfl
  refine ⟨counted, ?_, ?_, ?_⟩
  · rw [counted, Except.ok.injEq, Nat.add_eq_left, List.count_eq_zero]
  · intro cwd rooted filled name member
    exact Path.isSource_absolute rooted (proper name member) filled
  · intro cwd rooted filled name member clock window start watch created
    rw [Watch.eq_of_ofFolder created, Watch.covers, Path.folder_place rooted (proper name member) filled,
      beq_self_eq_true, Bool.true_and, Path.isSource_place rooted (proper name member) filled]

/-- A listing with names that begin or end like a source in every way, of a folder that is spelled with a climb. -/
theorem tally_dotted :
    let names := ["a.v".toList, "..v".toList, ".v".toList, "b.vv".toList, ".v.v".toList, "v".toList]
    let files : Files := [("../p/".toList, names)]
    files.list "../p/".toList = .ok names ∧ (∀ name ∈ names, IsProper name) ∧
      files.Tally "../p/".toList names ∧ files.countSources "../p/".toList = .ok 4 := by
  intro names files
  have found : files.list "../p/".toList = .ok names := by decide
  have proper : ∀ name ∈ names, IsProper name := by decide
  exact ⟨found, proper, tally found proper, by decide⟩

/-- A name that is nothing but the ending is counted, though its path is no source's, and so the only source of a
folder is compiled as if it had a sibling. -/
theorem hidden_name_counted :
    let names := ["a.v".toList, ".v".toList]
    let files : Files := [("/d".toList, names)]
    (∀ name ∈ names, IsProper name) ∧ files.list "/d".toList = .ok names ∧
      files.countSources "/d".toList = .ok 2 ∧
      names.countP (fun name => Path.isSource ("/d".toList ++ '/' :: name)) = 1 ∧
      Compiler.target files "/".toList "/d/a.v".toList "/d".toList = .ok ['.'] := by
  decide

end Files

end VDiagnostics
