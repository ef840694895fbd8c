import VDiagnostics.Compiler.Target
import VDiagnostics.Proofs.Containment
import VDiagnostics.Proofs.RelativePaths

/-! What the compiler is handed for a document in a workspace. Run in the workspace it finds the document or the
folder of the document there, and nothing outside. -/

namespace VDiagnostics

open VDiagnostics.Path (Rooted)

namespace Compiler

/-- What is compiled for a document in a folder with so many sources. -/
def unit (sources : Nat) (document : Rooted) : Rooted :=
  if sources = 1 then document else document.folder

private theorem unit_single (document : Rooted) : unit 1 document = document :=
  if_pos rfl

private theorem unit_other {sources : Nat} (other : sources ≠ 1) (document : Rooted) :
    unit sources document = document.folder :=
  if_neg other

/-- The target is the way from the workspace to the unit; that the workspace itself is told apart changes nothing. -/
theorem target_eq {files : Files} {cwd document root : Text} {listed : List Text} (place workspace : Rooted)
    (documentPlace : Path.absolute cwd document = place.path) (rootPlace : Path.absolute cwd root = workspace.path)
    (found : files.list (Path.folder place.path) = .ok listed) :
    target files cwd document root =
      .ok (Path.spell 0 (Path.steps workspace.names (unit (Path.countSources listed) place).names)) := by
  have counted : files.countSources (Path.folder place.path) = .ok (Path.countSources listed) := by
    rw [Files.countSources, found]
    rfl
  have way (goal : Rooted) : Path.relative cwd goal.path workspace.path =
      .ok (Path.spell 0 (Path.steps workspace.names goal.names)) := by
    rw [Path.relative_rooted workspace.isRooted_path, Rooted.normalNames_path]
  simp only [target, documentPlace, rootPlace, counted, Except.bind]
  by_cases single : Path.countSources listed = 1
  · rw [if_pos single, way, single, unit_single]
  · rw [if_neg single, unit_other single, Path.folder_path]
    by_cases top : place.folder.path = workspace.path
    · have names : place.folder.names = workspace.names := by
        rw [← Rooted.components_path, top, Rooted.components_path]
      have nowhere := Path.steps_append workspace.names []
      rw [List.append_nil] at nowhere
      rw [if_pos top, names, nowhere]
      rfl
    · rw [if_neg top, way]

section Unit

variable {place : Rooted} {names : List Text}

/-- A document other than the workspace is below it, and so is its folder unless that is the workspace. -/
theorem prefix_unit (within : names <+: place.names) (apart : place.names ≠ names) (sources : Nat) :
    names <+: (unit sources place).names ∧ (unit sources place).names <+: place.names := by
  by_cases single : sources = 1
  · rw [single, unit_single]
    exact ⟨within, List.prefix_refl _⟩
  · rw [unit_other single]
    refine ⟨?_, List.dropLast_prefix _⟩
    obtain ⟨rest, whole⟩ := within
    have below : rest ≠ [] := by
      rintro rfl
      exact apart (by rw [← whole, List.append_nil])
    simp only [Rooted.folder, ← whole, List.dropLast_append_of_ne_nil below]
    exact List.prefix_append _ _

private theorem names_unit_iff (apart : place.names ≠ names) {sources : Nat} :
    (unit sources place).names = names ↔ sources ≠ 1 ∧ place.folder.names = names := by
  by_cases single : sources = 1
  · rw [single, unit_single]
    exact iff_of_false apart (fun wrong => wrong.1 rfl)
  · rw [unit_other single]
    exact (and_iff_right single).symm

end Unit

/-- Just one of the names in a listing ends like a source. -/
def IsSingle (listed : List Text) : Prop :=
  listed.countP (fun name => ['.', 'v'] <:+ name) = 1

instance (listed : List Text) : Decidable (IsSingle listed) :=
  inferInstanceAs (Decidable (_ = 1))

private theorem isSingle_iff {listed : List Text} : IsSingle listed ↔ Path.countSources listed = 1 := by
  have same : listed.countP (fun name => ['.', 'v'] <:+ name) = Path.countSources listed := by
    refine List.countP_congr fun name _ => ?_
    rw [decide_eq_true_iff, Text.endsWith, List.isSuffixOf_iff_suffix, Path.sourceExtension]
  rw [IsSingle, same]

/-- A target for a document in a folder with this listing: it leads down from the workspace, to the document if that
is the single source and else to its folder. -/
structure IsTarget (cwd document root : Text) (listed : List Text) (target : Text) : Prop where
  unrooted : Path.isRooted target = false
  descends : ['.', '.'] ∉ Path.components target
  single : IsSingle listed →
    Path.components (Path.normalize (Path.join (Path.absolute cwd root) target)) =
      Path.components (Path.absolute cwd document)
  several : ¬ IsSingle listed →
    Path.components (Path.normalize (Path.join (Path.absolute cwd root) target)) =
      Path.components (Path.folder (Path.absolute cwd document))
  whole : target = ['.'] ↔ ¬ IsSingle listed ∧
    Path.components (Path.folder (Path.absolute cwd document)) = Path.components (Path.absolute cwd root)
  inside : Path.isWithin cwd (Path.join (Path.absolute cwd root) target) root
  holds : Path.isWithin cwd document (Path.join (Path.absolute cwd root) target)

/-- For a document in a workspace the compiler is handed a way down from the workspace, as long as the document's
folder can be listed. -/
theorem target_leads_down {files : Files} {cwd document root : Text} {listed : List Text} (rooted : Path.isRooted cwd)
    (within : Path.isWithin cwd document root)
    (apart : Path.components (Path.absolute cwd document) ≠ Path.components (Path.absolute cwd root))
    (found : files.list (Path.folder (Path.absolute cwd document)) = .ok listed) :
    ∃ target, Compiler.target files cwd document root = .ok target ∧
      IsTarget cwd document root listed target := by
  let place := Rooted.ofPath (Path.join cwd document) (Path.isRooted_join rooted document)
  let workspace := Rooted.ofPath (Path.join cwd root) (Path.isRooted_join rooted root)
  have documentPlace : Path.absolute cwd document = place.path := rfl
  have rootPlace : Path.absolute cwd root = workspace.path := rfl
  obtain ⟨slash, begins⟩ := (Path.isWithin_iff rooted document root).mp within
  rw [documentPlace, rootPlace, Rooted.components_path, Rooted.components_path] at apart
  let goal := unit (Path.countSources listed) place
  obtain ⟨below, above⟩ : workspace.names <+: goal.names ∧ goal.names <+: place.names := prefix_unit begins apart _
  -- The workspace's names are the first of the unit's, so the target is spelled from what is left of them.
  obtain ⟨rest, way, split, proper⟩ := Path.exists_descent below
  have named : ∀ name ∈ rest, Path.IsName name := fun name member => (proper name member).toIsName
  have unrooted : Path.isRooted (Path.spell 0 rest) = false := Path.isRooted_spell named 0
  have onward := Path.isRooted_join workspace.isRooted_path (Path.spell 0 rest)
  have led : Path.normalNames (Path.join workspace.path (Path.spell 0 rest)) = goal.names :=
    Path.normalNames_descent way
  have reached : Path.components (Path.normalize (Path.join workspace.path (Path.spell 0 rest))) = goal.names :=
    (Rooted.ofPath _ onward).components_path.trans led
  refine ⟨Path.spell 0 rest, ?_, unrooted, ?_, ?_, ?_, ?_, ?_, ?_⟩
  · rw [target_eq place workspace documentPlace rootPlace found, way]
  · rw [Path.components_spell named]
    exact fun member => (proper _ member).descends rfl
  · intro single
    have document : goal = place := if_pos (isSingle_iff.mp single)
    rw [documentPlace, rootPlace, reached, document, Rooted.components_path]
  · intro several
    have folder : goal = place.folder := if_neg (isSingle_iff.not.mp several)
    rw [documentPlace, rootPlace, reached, folder, Path.folder_path, Rooted.components_path]
  · rw [documentPlace, rootPlace, Path.folder_path, Rooted.components_path, Rooted.components_path, isSingle_iff,
      ← names_unit_iff apart, Path.spell_eq_dot_iff named, ← List.append_right_eq_self, split]
  · rw [Path.isWithin_iff rooted, rootPlace, Path.join_rooted onward, led]
    exact ⟨slash, rest, split⟩
  · rw [Path.isWithin_iff rooted, rootPlace, Path.join_rooted onward, led,
      Path.rootSlashes_join workspace.isRooted_path unrooted, Rooted.rootSlashes_path]
    exact ⟨slash, above⟩

/-- A folder with two sources and one with a single source, with paths that are spelled the long way. -/
theorem target_leads_down_shared :
    let shared := ["a.v".toList, "b.v".toList, "n.txt".toList]
    let single := ["v".toList, "c.v".toList]
    let files : Files := [("/p/q".toList, shared), ("/p/r".toList, single)]
    let cwd := ['/', 'w']
    let root := "/x/../p/".toList
    (Compiler.target files cwd "../p//q/./a.v".toList root = .ok ['q'] ∧
        IsTarget cwd "../p//q/./a.v".toList root shared ['q']) ∧
      Compiler.target files cwd "../p/r/c.v".toList root = .ok "r/c.v".toList ∧
        IsTarget cwd "../p/r/c.v".toList root single "r/c.v".toList := by
  intro shared single files cwd root
  constructor
  · have picked : Compiler.target files cwd "../p//q/./a.v".toList root = .ok ['q'] := by decide
    obtain ⟨target, same, leads⟩ := @target_leads_down files cwd "../p//q/./a.v".toList root shared (by decide)
      (by decide) (by decide) (by decide)
    obtain rfl : ['q'] = target := Except.ok.inj (picked.symm.trans same)
    exact ⟨picked, leads⟩
  · have picked : Compiler.target files cwd "../p/r/c.v".toList root = .ok "r/c.v".toList := by decide
    obtain ⟨target, same, leads⟩ := @target_leads_down files cwd "../p/r/c.v".toList root single (by decide)
      (by decide) (by decide) (by decide)
    obtain rfl : "r/c.v".toList = target := Except.ok.inj (picked.symm.trans same)
    exact ⟨picked, leads⟩

end Compiler

end VDiagnostics
