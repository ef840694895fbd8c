import VDiagnostics.Proofs.NormalPaths

/-! The way from a folder to a path leads to the path. It climbs out of what the two do not share, so it only
descends where the path is within the folder, which is where the folder's names come first. -/

namespace VDiagnostics

namespace Path

section Steps

variable {rooted : Bool} {start goal : List Text}

private theorem steps_nil_left (goal : List Text) : steps [] goal = goal := by
  cases goal <;> simp [steps]

private theorem steps_nil_right (start : List Text) : steps start [] = List.replicate start.length ['.', '.'] := by
  cases start <;> simp [steps]

private theorem steps_same (name : Text) (start goal : List Text) :
    steps (name :: start) (name :: goal) = steps start goal :=
  if_pos rfl

private theorem steps_other {here next : Text} (other : here ≠ next) (start goal : List Text) :
    steps (here :: start) (next :: goal) = List.replicate (here :: start).length ['.', '.'] ++ next :: goal :=
  if_neg other

theorem steps_append (start rest : List Text) : steps start (start ++ rest) = rest := by
  induction start with
  | nil => exact steps_nil_left rest
  | cons name start ih => rw [List.cons_append, steps_same, ih]

/-- Whoever stands where the first names lead is led to where the second names lead. -/
private theorem foldl_climb_steps (startDown : ∀ name ∈ start, name ≠ ['.', '.'])
    (goalDown : ∀ name ∈ goal, name ≠ ['.', '.']) (below : List Text) :
    (steps start goal).foldl (climb rooted) (start.reverse ++ below) = goal.reverse ++ below := by
  induction start generalizing goal below with
  | nil => rw [steps_nil_left, foldl_climb_down goalDown, List.reverse_nil, List.nil_append]
  | cons here start ih =>
    have back : (List.replicate (here :: start).length ['.', '.']).foldl (climb rooted)
        ((here :: start).reverse ++ below) = below := by
      rw [← List.length_reverse]
      exact foldl_climb_back (fun name member => startDown name (List.mem_reverse.mp member)) below
    cases goal with
    | nil => rw [steps_nil_right, back, List.reverse_nil, List.nil_append]
    | cons next goal =>
      by_cases same : here = next
      · -- A shared name lies below both ways, so it joins the names that are already there.
        subst same
        obtain ⟨_, others⟩ := List.forall_mem_cons.mp startDown
        obtain ⟨_, goals⟩ := List.forall_mem_cons.mp goalDown
        have led := ih others goals (here :: below)
        rw [steps_same]
        simpa using led
      · rw [steps_other same, List.foldl_append, back, foldl_climb_down goalDown]

theorem isName_steps (named : ∀ name ∈ goal, IsName name) : ∀ name ∈ steps start goal, IsName name := by
  have up : IsName ['.', '.'] := by decide
  induction start generalizing goal with
  | nil => rwa [steps_nil_left]
  | cons here start ih =>
    cases goal with
    | nil =>
      rw [steps_nil_right]
      exact fun name member => List.eq_of_mem_replicate member ▸ up
    | cons next goal =>
      by_cases same : here = next
      · subst same
        rw [steps_same]
        exact ih (List.forall_mem_cons.mp named).2
      · rw [steps_other same]
        refine List.forall_mem_append.mpr ⟨fun name member => ?_, named⟩
        exact List.eq_of_mem_replicate member ▸ up

/-- The way climbs unless what is left behind comes first in what is looked for. -/
theorem up_mem_steps_iff (goalDown : ∀ name ∈ goal, name ≠ ['.', '.']) :
    ['.', '.'] ∈ steps start goal ↔ ¬ start <+: goal := by
  induction start generalizing goal with
  | nil =>
    rw [steps_nil_left]
    exact iff_of_false (fun member => goalDown _ member rfl) (fun apart => apart List.nil_prefix)
  | cons here start ih =>
    cases goal with
    | nil =>
      rw [steps_nil_right]
      exact iff_of_true (by simp) (by simp)
    | cons next goal =>
      obtain ⟨_, goals⟩ := List.forall_mem_cons.mp goalDown
      by_cases same : here = next
      · -- A shared name is neither climbed nor left behind.
        subst same
        rw [steps_same, ih goals, List.cons_prefix_cons, and_iff_right rfl]
      · rw [steps_other same, List.cons_prefix_cons]
        exact iff_of_true (by simp) (fun begins => same begins.1)

end Steps

section Ways

variable {folder path : Text}

private theorem names_absolute {cwd : Text} (rooted : isRooted (join cwd path)) :
    names (absolute cwd path) = normalNames (join cwd path) :=
  (Rooted.ofPath _ rooted).names_path

/-- The way between two paths is that between the places they mean. -/
theorem relative_eq {cwd : Text} (filled : path ≠ []) (start : isRooted (join cwd folder))
    (goal : isRooted (join cwd path)) :
    relative cwd path folder = .ok (spell 0 (steps (normalNames (join cwd folder)) (normalNames (join cwd path)))) := by
  rw [relative, List.isEmpty_eq_false_iff.mpr filled, if_neg Bool.false_ne_true, names_absolute start,
    names_absolute goal]

/-- From where a rooted path is seen, the working folder does not matter. -/
theorem relative_rooted (rooted : isRooted folder) (cwd : Text) (goal : Rooted) :
    relative cwd goal.path folder = .ok (spell 0 (steps (normalNames folder) goal.names)) := by
  have start : join cwd folder = folder := join_rooted rooted cwd
  have stop : join cwd goal.path = goal.path := join_rooted goal.isRooted_path cwd
  rw [relative_eq goal.path_ne_nil (by rwa [start]) (by rw [stop, goal.isRooted_path]), start, stop,
    Rooted.normalNames_path]

/-- Where the way to a place is taken from a folder, it ends in the place. -/
theorem normalNames_join_steps (rooted : isRooted folder) (goal : Rooted) :
    normalNames (join folder (spell 0 (steps (normalNames folder) goal.names))) = goal.names := by
  have named := @isName_steps (normalNames folder) goal.names goal.named
  have unrooted := isRooted_spell named 0
  rw [normalNames_join rooted unrooted, components_spell named,
    ← List.append_nil (normalNames folder).reverse, foldl_climb_steps, List.append_nil, List.reverse_reverse]
  · exact fun name member => (isProper_normalNames rooted name member).descends
  · exact fun name member => (goal.proper name member).descends

/-- With one slash at their starts, a place that was reached from a folder is the place itself. -/
theorem normalize_join_steps (rooted : isRooted folder) (single : rootSlashes folder = 1) {goal : Rooted}
    (goalSingle : goal.slashes = 1) :
    normalize (join folder (spell 0 (steps (normalNames folder) goal.names))) = goal.path := by
  have unrooted := isRooted_spell (@isName_steps (normalNames folder) goal.names goal.named) 0
  rw [normalize, normalNames_join_steps rooted, rootSlashes_join rooted unrooted, single, Rooted.path, goalSingle]

/-- From a place above, the way only leads down. -/
theorem exists_descent {start goal : Rooted} (above : start.names <+: goal.names) :
    ∃ rest, steps start.names goal.names = rest ∧ start.names ++ rest = goal.names ∧
      ∀ name ∈ rest, IsProper name := by
  obtain ⟨rest, split⟩ := above
  refine ⟨rest, by rw [← split, steps_append], split, fun name member => goal.proper name ?_⟩
  rw [← split]
  exact List.mem_append_right _ member

/-- The names of a way down lead on from the place above. -/
theorem normalNames_descent {start goal : Rooted} {rest : List Text} (way : steps start.names goal.names = rest) :
    normalNames (join start.path (spell 0 rest)) = goal.names := by
  have led := normalNames_join_steps start.isRooted_path goal
  rwa [Rooted.normalNames_path, way] at led

/-- To a normal path that does not climb, the way is the path. -/
theorem spell_steps_join (rooted : isRooted folder) (unrooted : isRooted path = false)
    (normal : normalize path = path) (descends : ['.', '.'] ∉ components path) :
    spell 0 (steps (normalNames folder) (normalNames (join folder path))) = path := by
  have down : ∀ name ∈ components path, name ≠ ['.', '.'] := fun name member same => descends (same ▸ member)
  have slashless : rootSlashes path = 0 := by
    have pos := @rootSlashes_pos_iff path
    simp only [unrooted, Bool.false_eq_true, iff_false] at pos
    omega
  have way : steps (normalNames folder) (normalNames (join folder path)) = components path := by
    rw [normalNames_join rooted unrooted, foldl_climb_down down, List.reverse_append, List.reverse_reverse,
      List.reverse_reverse, steps_append]
  rw [way, ← normalNames_proper down, ← slashless]
  exact normal

end Ways

end Path

end VDiagnostics
