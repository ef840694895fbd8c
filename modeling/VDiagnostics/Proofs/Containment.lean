import VDiagnostics.Path.Within
import VDiagnostics.Proofs.RelativePaths

/-! What lies in a folder. A path does where the folder's names come first among its own, and the folder starts with one
slash, as the longest path above any two does. That is where the way from the folder to the path does not climb. -/

namespace VDiagnostics

namespace Path

private theorem shared_prefix_left (first second : List Text) : shared first second <+: first := by
  induction first generalizing second with
  | nil => exact List.nil_prefix
  | cons name first ih =>
    cases second with
    | nil => exact List.nil_prefix
    | cons other second =>
      by_cases same : name = other
      · rw [shared, if_pos same, List.cons_prefix_cons]
        exact ⟨rfl, ih second⟩
      · rw [shared, if_neg same]
        exact List.nil_prefix

private theorem shared_eq_right_iff {first second : List Text} : shared first second = second ↔ second <+: first := by
  induction second generalizing first with
  | nil => simp [shared]
  | cons name second ih =>
    cases first with
    | nil => simp [shared]
    | cons other first =>
      by_cases same : other = name
      · subst same
        simp [shared, ih]
      · simp [shared, same, List.cons_prefix_cons, Ne.symm same]

private theorem isName_shared (place : Rooted) (second : List Text) : ∀ name ∈ shared place.names second, IsName name :=
  fun name member => place.named name ((shared_prefix_left place.names second).subset member)

/-- Two places have the slash in common, and then the names that both begin with. -/
theorem common?_path (place folder : Rooted) :
    common? place.path folder.path = some (spell 1 (shared place.names folder.names)) := by
  have named := isName_shared place folder.names
  rw [common?, Rooted.isRooted_path, Rooted.isRooted_path, Rooted.components_path, Rooted.components_path,
    spell_eq named (.inl Nat.one_pos)]
  rfl

theorem isWithin_iff {cwd : Text} (rooted : isRooted cwd) (path root : Text) :
    isWithin cwd path root ↔
      rootSlashes (join cwd root) = 1 ∧ normalNames (join cwd root) <+: normalNames (join cwd path) := by
  let place := Rooted.ofPath (join cwd path) (isRooted_join rooted path)
  let folder := Rooted.ofPath (join cwd root) (isRooted_join rooted root)
  have named := isName_shared place folder.names
  have common : isWithin cwd path root ↔ spell 1 (shared place.names folder.names) = folder.path := by
    have whole : isWithin cwd path root = (common? place.path folder.path == some folder.path) := rfl
    rw [whole, common?_path, beq_iff_eq, Option.some.injEq]
  rw [common]
  constructor
  · intro same
    have slashes := congrArg rootSlashes same
    have names := congrArg components same
    rw [rootSlashes_spell named (by decide), Rooted.rootSlashes_path] at slashes
    rw [components_spell named, Rooted.components_path] at names
    exact ⟨slashes.symm, shared_eq_right_iff.mp names⟩
  · rintro ⟨slashes, begins⟩
    have single : folder.slashes = 1 := slashes
    have names : shared place.names folder.names = folder.names := shared_eq_right_iff.mpr begins
    rw [names, Rooted.path, single]

section Enclosing

variable {cwd : Text}

private theorem components_absolute (rooted : isRooted cwd) (path : Text) :
    components (absolute cwd path) = normalNames (join cwd path) :=
  (Rooted.ofPath _ (isRooted_join rooted path)).components_path

private theorem rootSlashes_absolute (rooted : isRooted cwd) (path : Text) :
    rootSlashes (absolute cwd path) = rootSlashes (join cwd path) :=
  (Rooted.ofPath _ (isRooted_join rooted path)).rootSlashes_path

variable {root : Text}

/-- Where a root starts with one slash, names alone tell what is inside. -/
theorem isWithin_iff_prefix (rooted : isRooted cwd) (few : rootSlashes (absolute cwd root) ≠ 2) (path : Text) :
    isWithin cwd path root ↔ components (absolute cwd root) <+: components (absolute cwd path) := by
  rw [rootSlashes_absolute rooted] at few
  rw [isWithin_iff rooted, components_absolute rooted, components_absolute rooted,
    and_iff_right (rootSlashes_eq_one (isRooted_join rooted root) few)]

private theorem isWithin_trans (rooted : isRooted cwd) {path folder : Text} (inner : isWithin cwd path folder)
    (outer : isWithin cwd folder root) : isWithin cwd path root := by
  obtain ⟨_, below⟩ := (isWithin_iff rooted path folder).mp inner
  obtain ⟨slash, above⟩ := (isWithin_iff rooted folder root).mp outer
  exact (isWithin_iff rooted path root).mpr ⟨slash, above.trans below⟩

/-- The way to a path climbs out of a root exactly where the root's names do not come first. -/
theorem climbs_iff (rooted : isRooted cwd) (path : Text) :
    ['.', '.'] ∈ components (spell 0 (steps (normalNames (join cwd root)) (normalNames (join cwd path)))) ↔
      ¬ components (absolute cwd root) <+: components (absolute cwd path) := by
  have proper := isProper_normalNames (isRooted_join rooted path)
  have named := @isName_steps (normalNames (join cwd root)) _ fun name member => (proper name member).toIsName
  rw [components_spell named, up_mem_steps_iff (fun name member => (proper name member).descends),
    components_absolute rooted, components_absolute rooted]

/-- A longer name at the place of a root's last name leads elsewhere. -/
private theorem not_prefix_of_longer {above rest : List Text} {name more : Text} (longer : more ≠ []) :
    ¬ above ++ [name] <+: above ++ (name ++ more) :: rest := by
  intro begins
  rw [List.prefix_append_right_inj, List.cons_prefix_cons, List.self_eq_append_right] at begins
  exact longer begins.1

/-- What it is to be inside a root, for paths of every spelling. -/
structure Encloses (cwd root : Text) : Prop where
  names : ∀ path, isWithin cwd path root ↔ components (absolute cwd root) <+: components (absolute cwd path)
  ways : ∀ path, path ≠ [] → ∃ way, relative cwd path root = .ok way ∧
    (isWithin cwd path root ↔ ['.', '.'] ∉ components way)
  itself : isWithin cwd root root
  nested : ∀ path folder, isWithin cwd path folder → isWithin cwd folder root → isWithin cwd path root
  /-- What is beside the root or below a neighbour, where the neighbour's name begins like that of the root. -/
  neighbours : ∀ path above name more rest, components (absolute cwd root) = above ++ [name] → more ≠ [] →
    components (absolute cwd path) = above ++ (name ++ more) :: rest → isWithin cwd path root = false

/-- A root that does not keep two slashes encloses the paths that its names begin, and no others. -/
theorem encloses_single_slash (rooted : isRooted cwd) (few : rootSlashes (absolute cwd root) ≠ 2) :
    Encloses cwd root := by
  have inside (path : Text) := isWithin_iff_prefix rooted few path
  refine ⟨inside, ?_, (inside root).mpr (List.prefix_refl _), fun path folder => isWithin_trans rooted, ?_⟩
  · intro path filled
    refine ⟨_, relative_eq filled (isRooted_join rooted root) (isRooted_join rooted path), ?_⟩
    rw [climbs_iff rooted, not_not]
    exact inside path
  · intro path above name more rest rootNames longer pathNames
    rw [Bool.eq_false_iff]
    intro within
    have begins := (inside path).mp within
    rw [rootNames, pathNames] at begins
    exact not_prefix_of_longer longer begins

/-- A root that is spelled the long way, with a file in it and one below its neighbour. -/
theorem encloses_single_slash_spelled :
    let root := "/x/..//p/./proj/".toList
    rootSlashes (absolute ['/', 'w'] root) ≠ 2 ∧ Encloses ['/', 'w'] root ∧
      isWithin ['/', 'w'] "../p/proj/sub/../a.v".toList root = true ∧
      isWithin ['/', 'w'] "../p/project/x.v".toList root = false := by
  intro root
  have few : rootSlashes (absolute ['/', 'w'] root) ≠ 2 := by decide
  have law : Encloses ['/', 'w'] root := encloses_single_slash (by decide) few
  refine ⟨few, law, (law.names _).mpr (by decide), ?_⟩
  exact law.neighbours _ ["p".toList] "proj".toList "ect".toList ["x.v".toList] (by decide) (by decide) (by decide)

end Enclosing

end Path

end VDiagnostics
