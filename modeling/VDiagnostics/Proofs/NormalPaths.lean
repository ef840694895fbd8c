import VDiagnostics.Proofs.PathNames

/-! Normal spellings of rooted paths. From the root every name leads down, so a normal spelling is spelled anew as it
is, to go on from a folder is to go on from its names, and the folder above is the same spelling without the last
name. -/

namespace VDiagnostics

namespace Path

/-- A name that leads down, and not up. -/
structure IsProper (name : Text) : Prop extends IsName name where
  descends : name ≠ ['.', '.']

instance (name : Text) : Decidable (IsProper name) :=
  decidable_of_iff (IsName name ∧ name ≠ ['.', '.'])
    ⟨fun ⟨named, descends⟩ => ⟨named, descends⟩, fun proper => ⟨proper.toIsName, proper.descends⟩⟩

section Climbing

variable {rooted : Bool}

theorem climb_up {last : Text} (proper : last ≠ ['.', '.']) (below : List Text) :
    climb rooted (last :: below) ['.', '.'] = below := by
  rw [climb, if_pos rfl]
  exact if_neg proper

theorem climb_down {name : Text} (descends : name ≠ ['.', '.']) (below : List Text) :
    climb rooted below name = name :: below :=
  if_neg descends

/-- Names that lead down are taken one by one. -/
theorem foldl_climb_down {names : List Text} (descend : ∀ name ∈ names, name ≠ ['.', '.']) (below : List Text) :
    names.foldl (climb rooted) below = names.reverse ++ below := by
  induction names generalizing below with
  | nil => rfl
  | cons name rest ih =>
    obtain ⟨first, others⟩ := List.forall_mem_cons.mp descend
    rw [List.foldl_cons, climb_down first, ih others]
    simp

/-- As many dots lead back to where some names led from. -/
theorem foldl_climb_back {above : List Text} (descend : ∀ name ∈ above, name ≠ ['.', '.']) (below : List Text) :
    (List.replicate above.length ['.', '.']).foldl (climb rooted) (above ++ below) = below := by
  induction above with
  | nil => rfl
  | cons last rest ih =>
    obtain ⟨first, others⟩ := List.forall_mem_cons.mp descend
    rw [List.length_cons, List.replicate_succ, List.foldl_cons, List.cons_append, climb_up first, ih others]

/-- Nothing is above the root, so all that is kept leads down. -/
theorem isProper_climb {below : List Text} {name : Text} (proper : ∀ other ∈ below, IsProper other)
    (named : IsName name) : ∀ other ∈ climb true below name, IsProper other := by
  by_cases up : name = ['.', '.']
  · subst up
    cases below with
    | nil => simp [climb]
    | cons last rest =>
      obtain ⟨first, others⟩ := List.forall_mem_cons.mp proper
      rwa [climb_up first.descends]
  · rw [climb_down up]
    exact List.forall_mem_cons.mpr ⟨⟨named, up⟩, proper⟩

private theorem isProper_foldl_climb {names below : List Text} (proper : ∀ other ∈ below, IsProper other)
    (named : ∀ name ∈ names, IsName name) : ∀ other ∈ names.foldl (climb true) below, IsProper other := by
  induction names generalizing below with
  | nil => exact proper
  | cons name rest ih =>
    obtain ⟨first, others⟩ := List.forall_mem_cons.mp named
    exact ih (isProper_climb proper first) others

end Climbing

theorem isProper_normalNames {path : Text} (rooted : isRooted path) : ∀ name ∈ normalNames path, IsProper name := by
  intro name member
  rw [normalNames, rooted, List.mem_reverse] at member
  exact isProper_foldl_climb (by simp) (fun name => isName_of_mem_components) name member

theorem normalNames_proper {path : Text} (descend : ∀ name ∈ components path, name ≠ ['.', '.']) :
    normalNames path = components path := by
  rw [normalNames, foldl_climb_down descend, List.append_nil, List.reverse_reverse]

/-- A rooted path in its normal spelling: the slashes it starts with, and names that all lead down. -/
structure Rooted where
  slashes : Nat
  names : List Text
  starts : 0 < slashes
  few : slashes ≤ 2
  proper : ∀ name ∈ names, IsProper name

namespace Rooted

def path (place : Rooted) : Text :=
  spell place.slashes place.names

/-- The place of a rooted path. -/
def ofPath (path : Text) (rooted : isRooted path) : Rooted where
  slashes := rootSlashes path
  names := normalNames path
  starts := rootSlashes_pos_iff.mpr rooted
  few := rootSlashes_le path
  proper := isProper_normalNames rooted

/-- The place above, which for the root is the root itself. -/
def folder (place : Rooted) : Rooted where
  slashes := place.slashes
  names := place.names.dropLast
  starts := place.starts
  few := place.few
  proper name member := place.proper name (List.dropLast_subset place.names member)

variable (place : Rooted)

theorem named : ∀ name ∈ place.names, IsName name :=
  fun name member => (place.proper name member).toIsName

@[simp] theorem names_path : Path.names place.path = place.names :=
  names_spell place.named (.inl place.starts)

@[simp] theorem components_path : components place.path = place.names :=
  components_spell place.named place.slashes

@[simp] theorem rootSlashes_path : rootSlashes place.path = place.slashes :=
  rootSlashes_spell place.named place.few

@[simp] theorem isRooted_path : isRooted place.path = true :=
  (isRooted_spell place.named place.slashes).trans (decide_eq_true place.starts)

@[simp] theorem normalNames_path : normalNames place.path = place.names := by
  have descend : ∀ name ∈ components place.path, name ≠ ['.', '.'] := by
    rw [components_path]
    exact fun name member => (place.proper name member).descends
  rw [normalNames_proper descend, components_path]

@[simp] theorem normalize_path : normalize place.path = place.path := by
  rw [normalize, rootSlashes_path, normalNames_path, path]

theorem path_ne_nil : place.path ≠ [] := by
  intro empty
  have rooted := place.isRooted_path
  simp [empty, isRooted] at rooted

end Rooted

section Joining

variable {folder path : Text}

theorem join_rooted (rooted : isRooted path) (folder : Text) : join folder path = path :=
  if_pos rooted

/-- A path goes on behind the folder's last slash, which is put there if it is missing. -/
theorem join_unrooted (unrooted : isRooted path = false) (filled : folder ≠ []) :
    folder.getLast? = some '/' ∧ join folder path = folder ++ path ∨
      folder.getLast? ≠ some '/' ∧ join folder path = folder ++ '/' :: path := by
  have named : folder.isEmpty = false := List.isEmpty_eq_false_iff.mpr filled
  rw [join, unrooted, named, if_neg (by decide), Bool.false_or]
  by_cases ended : folder.getLast? = some '/'
  · exact .inl ⟨ended, if_pos (beq_iff_eq.mpr ended)⟩
  · exact .inr ⟨ended, if_neg (by simpa using ended)⟩

/-- To go on from a folder is to have its names before those of the path. -/
theorem components_join (unrooted : isRooted path = false) (folder : Text) :
    components (join folder path) = components folder ++ components path := by
  by_cases filled : folder = []
  · subst filled
    rw [join, unrooted, if_neg (by decide), List.isEmpty_nil, Bool.true_or, if_pos rfl]
    rfl
  · rcases join_unrooted unrooted filled with ⟨ended, joined⟩ | ⟨_, joined⟩
    · obtain ⟨front, rfl⟩ := List.getLast?_eq_some_iff.mp ended
      rw [joined, components_concat, List.append_assoc, List.singleton_append, components_append_cons]
    · rw [joined, components_append_cons]

private theorem exists_of_isRooted (rooted : isRooted folder) : ∃ rest, folder = '/' :: rest :=
  List.head?_eq_some_iff.mp (beq_iff_eq.mp rooted)

theorem isRooted_join (rooted : isRooted folder) (path : Text) : isRooted (join folder path) := by
  cases unrooted : isRooted path with
  | true => rwa [join_rooted unrooted]
  | false =>
    obtain ⟨rest, rfl⟩ := exists_of_isRooted rooted
    rcases join_unrooted unrooted (List.cons_ne_nil '/' rest) with ⟨_, joined⟩ | ⟨_, joined⟩ <;> rw [joined] <;> rfl

/-- The slashes that a text starts with end at the first other character, or where it does. -/
theorem rootSlashes_append {front back : Text} (rooted : isRooted front)
    (apart : (∀ c ∈ front, c = '/') → ∀ rest, back ≠ '/' :: rest) :
    rootSlashes (front ++ back) = rootSlashes front := by
  obtain ⟨rest, rfl⟩ := exists_of_isRooted rooted
  have other (slashes : ∀ c ∈ '/' :: rest, c = '/') {c : Char} {behind : Text} (same : back = c :: behind) :
      c ≠ '/' := by
    rintro rfl
    exact apart slashes behind same
  cases rest with
  | nil =>
    cases back with
    | nil => rfl
    | cons c behind => simp [rootSlashes, other (by simp) rfl]
  | cons second more =>
    by_cases slash : second = '/'
    · subst slash
      cases more with
      | nil =>
        cases back with
        | nil => rfl
        | cons c behind => simp [rootSlashes, other (by simp) rfl]
      | cons third others => by_cases slash : third = '/' <;> simp [rootSlashes, slash]
    · simp [rootSlashes, slash]

/-- What a path goes on with does not lengthen the slashes at the folder's start. -/
theorem rootSlashes_join (rooted : isRooted folder) (unrooted : isRooted path = false) :
    rootSlashes (join folder path) = rootSlashes folder := by
  have filled : folder ≠ [] := by
    rintro rfl
    cases rooted
  rcases join_unrooted unrooted filled with ⟨_, joined⟩ | ⟨ended, joined⟩
  · rw [joined]
    apply rootSlashes_append rooted
    rintro _ rest rfl
    cases unrooted
  · rw [joined]
    apply rootSlashes_append rooted
    intro slashes
    rw [List.getLast?_eq_some_getLast filled, slashes _ (List.getLast_mem filled)] at ended
    exact absurd rfl ended

/-- Two slashes at the start are all that a rooted path keeps; else it starts with one. -/
theorem rootSlashes_eq_one (rooted : isRooted path) (few : rootSlashes path ≠ 2) : rootSlashes path = 1 := by
  have most := rootSlashes_le path
  have least := rootSlashes_pos_iff.mpr rooted
  omega

theorem rootSlashes_join_eq_one (rooted : isRooted folder) (few : rootSlashes folder ≠ 2)
    (pathFew : rootSlashes path ≠ 2) : rootSlashes (join folder path) = 1 := by
  cases unrooted : isRooted path with
  | true => rw [join_rooted unrooted, rootSlashes_eq_one unrooted pathFew]
  | false => rw [rootSlashes_join rooted unrooted, rootSlashes_eq_one rooted few]

theorem normalNames_join (rooted : isRooted folder) (unrooted : isRooted path = false) :
    normalNames (join folder path) =
      ((components path).foldl (climb true) (normalNames folder).reverse).reverse := by
  rw [normalNames, isRooted_join rooted, components_join unrooted, List.foldl_append, normalNames, rooted,
    List.reverse_reverse]

end Joining

@[simp] theorem absolute_rooted (place : Rooted) (cwd : Text) : absolute cwd place.path = place.path := by
  rw [absolute, join_rooted place.isRooted_path, place.normalize_path]

section Folders

/-- What follows the last slash does not matter for the folder. -/
theorem folder_append {last : Text} (slashless : '/' ∉ last) (front : Text) :
    folder (front ++ '/' :: last) = folder (front ++ ['/']) := by
  have passed : ∀ c ∈ last.reverse, decide (c ≠ '/') = true := by
    intro c member
    rw [List.mem_reverse] at member
    exact decide_eq_true fun same => slashless (same ▸ member)
  have upTo : (front ++ '/' :: last).reverse.dropWhile (· ≠ '/') = (front ++ ['/']).reverse.dropWhile (· ≠ '/') := by
    have reversed : (front ++ '/' :: last).reverse = last.reverse ++ (front ++ ['/']).reverse := by simp
    rw [reversed, List.dropWhile_append_of_pos passed]
  simp only [folder, upTo]

private theorem folder_named {c : Char} (printed : c ≠ '/') (front : Text) :
    folder (front ++ [c] ++ ['/']) = front ++ [c] := by
  simp [folder, printed]

/-- The folder of a normal spelling is spelled normally, with the same slashes at its start. -/
theorem folder_path (place : Rooted) : folder place.path = place.folder.path := by
  obtain ⟨slashes, names, starts, few, proper⟩ := place
  have cases : slashes = 1 ∨ slashes = 2 := by omega
  rcases List.eq_nil_or_concat' names with rfl | ⟨front, last, rfl⟩
  · rcases cases with rfl | rfl <;> rfl
  · have named : ∀ name ∈ front ++ [last], IsName name := fun name member => (proper name member).toIsName
    obtain ⟨others, final⟩ := List.forall_mem_append.mp named
    have slashless := (final last List.mem_cons_self).slashless
    simp only [Rooted.path, Rooted.folder, List.dropLast_concat]
    rw [spell_eq named (.inl starts), spell_eq others (.inl starts)]
    by_cases top : front = []
    · subst top
      rw [List.nil_append, List.intercalate_singleton, List.intercalate_nil, List.append_nil]
      rcases cases with rfl | rfl
      · exact folder_append slashless []
      · exact folder_append slashless ['/']
    · obtain ⟨stem, c, printed, ended⟩ := exists_intercalate_concat others top
      rw [intercalate_concat top, ended, ← List.append_assoc, ← List.append_assoc, folder_append slashless,
        folder_named printed]

end Folders

end Path

end VDiagnostics
