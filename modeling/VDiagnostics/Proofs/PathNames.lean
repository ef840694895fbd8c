import VDiagnostics.Path.Relative
import VDiagnostics.Proofs.Splitting

/-! The names of a path and its spelling. Names that were spelled behind any slashes are found again, and a normal
spelling shows how many slashes it starts with. -/

namespace VDiagnostics

namespace Path

/-- What names something between slashes. Two dots name the folder above. -/
structure IsName (name : Text) : Prop where
  slashless : '/' ∉ name
  filled : name ≠ []
  moves : name ≠ ['.']

instance (name : Text) : Decidable (IsName name) :=
  decidable_of_iff ('/' ∉ name ∧ name ≠ [] ∧ name ≠ ['.'])
    ⟨fun ⟨slashless, filled, moves⟩ => ⟨slashless, filled, moves⟩,
      fun named => ⟨named.slashless, named.filled, named.moves⟩⟩

theorem isName_of_mem_components {path name : Text} (member : name ∈ components path) : IsName name := by
  obtain ⟨inside, named⟩ := List.mem_filter.mp member
  simp only [ne_eq, Bool.and_eq_true, decide_eq_true_eq] at named
  exact ⟨Text.not_mem_of_mem_split inside, named.1, named.2⟩

theorem components_append_cons (front back : Text) :
    components (front ++ '/' :: back) = components front ++ components back := by
  rw [components, Text.split_append, List.filter_append]
  rfl

theorem components_concat (path : Text) : components (path ++ ['/']) = components path := by
  rw [components_append_cons]
  exact List.append_nil _

private theorem components_eq_filter (path : Text) : components path = (names path).filter (· ≠ ['.']) := by
  rw [names, List.filter_filter, components]
  congr 1
  funext name
  rw [Bool.and_comm]

section Spelling

variable {list : List Text}

private theorem names_intercalate (named : ∀ name ∈ list, IsName name) : names (['/'].intercalate list) = list := by
  cases list with
  | nil => rfl
  | cons first rest =>
    have cut : (['/'].intercalate (first :: rest)).splitOn '/' = first :: rest :=
      List.splitOn_intercalate '/' (fun name member => (named name member).slashless) (List.cons_ne_nil _ _)
    rw [names, Text.split_eq_splitOn, cut, List.filter_eq_self]
    exact fun name member => by simpa using (named name member).filled

/-- A spelling that is not empty starts in print. -/
theorem intercalate_eq (named : ∀ name ∈ list, IsName name) :
    list = [] ∨ ∃ c rest, c ≠ '/' ∧ ['/'].intercalate list = c :: rest := by
  cases list with
  | nil => exact .inl rfl
  | cons first rest =>
    right
    have start := named first List.mem_cons_self
    obtain ⟨c, others, rfl⟩ := List.exists_cons_of_ne_nil start.filled
    have printed : c ≠ '/' := by
      rintro rfl
      exact start.slashless List.mem_cons_self
    exact ⟨c, _, printed, List.intercalate_cons_cons_left⟩

theorem intercalate_concat {front : List Text} (filled : front ≠ []) (last : Text) :
    ['/'].intercalate (front ++ [last]) = ['/'].intercalate front ++ '/' :: last := by
  induction front with
  | nil => exact absurd rfl filled
  | cons first rest ih =>
    by_cases single : rest = []
    · simp [single]
    · rw [List.cons_append, List.intercalate_cons_of_ne_nil (by simp), ih single,
        List.intercalate_cons_of_ne_nil single]
      simp

theorem exists_intercalate_concat (named : ∀ name ∈ list, IsName name) (filled : list ≠ []) :
    ∃ stem c, c ≠ '/' ∧ ['/'].intercalate list = stem ++ [c] := by
  obtain ⟨front, last, rfl⟩ := (List.eq_nil_or_concat' list).resolve_left filled
  have final := named last (List.mem_append_right _ List.mem_cons_self)
  obtain ⟨stem, c, rfl⟩ := (List.eq_nil_or_concat' last).resolve_left final.filled
  have printed : c ≠ '/' := by
    rintro rfl
    exact final.slashless (by simp)
  by_cases single : front = []
  · exact ⟨stem, c, printed, by simp [single]⟩
  · exact ⟨_, c, printed, by rw [intercalate_concat single, ← List.cons_append, ← List.append_assoc]⟩

/-- Only the place without slashes and names needs a dot. -/
theorem spell_eq (named : ∀ name ∈ list, IsName name) {slashes : Nat} (shown : 0 < slashes ∨ list ≠ []) :
    spell slashes list = List.replicate slashes '/' ++ ['/'].intercalate list := by
  have filled : List.replicate slashes '/' ++ ['/'].intercalate list ≠ [] := by
    intro empty
    obtain ⟨none, nothing⟩ := List.append_eq_nil_iff.mp empty
    rcases shown with some | filled
    · simp at none
      omega
    · rcases intercalate_eq named with absent | ⟨c, rest, _, printed⟩
      · exact filled absent
      · simp [printed] at nothing
  unfold spell
  split
  next empty => exact absurd empty filled
  next => rfl

private theorem names_replicate (slashes : Nat) (path : Text) :
    names (List.replicate slashes '/' ++ path) = names path := by
  induction slashes with
  | zero => rfl
  | succ slashes ih => simpa [names, List.replicate_succ, Text.split_cons_self] using ih

theorem names_spell (named : ∀ name ∈ list, IsName name) {slashes : Nat} (shown : 0 < slashes ∨ list ≠ []) :
    names (spell slashes list) = list := by
  rw [spell_eq named shown, names_replicate, names_intercalate named]

theorem components_spell (named : ∀ name ∈ list, IsName name) (slashes : Nat) :
    components (spell slashes list) = list := by
  by_cases shown : 0 < slashes ∨ list ≠ []
  · rw [components_eq_filter, names_spell named shown, List.filter_eq_self]
    exact fun name member => by simpa using (named name member).moves
  · obtain ⟨rfl, rfl⟩ : slashes = 0 ∧ list = [] := by simpa using shown
    rfl

/-- Without slashes only the place itself is a dot. -/
theorem spell_eq_dot_iff (named : ∀ name ∈ list, IsName name) : spell 0 list = ['.'] ↔ list = [] := by
  constructor
  · intro dot
    rw [← components_spell named 0, dot]
    rfl
  · rintro rfl
    rfl

theorem rootSlashes_spell (named : ∀ name ∈ list, IsName name) {slashes : Nat} (few : slashes ≤ 2) :
    rootSlashes (spell slashes list) = slashes := by
  have cases : slashes = 0 ∨ slashes = 1 ∨ slashes = 2 := by omega
  rcases intercalate_eq named with rfl | ⟨c, rest, printed, spelled⟩
  · rcases cases with rfl | rfl | rfl <;> rfl
  · have filled : list ≠ [] := by
      rintro rfl
      cases spelled
    rw [spell_eq named (.inr filled), spelled]
    rcases cases with rfl | rfl | rfl <;> simp [rootSlashes, List.replicate_succ, printed]

theorem isRooted_spell (named : ∀ name ∈ list, IsName name) (slashes : Nat) :
    isRooted (spell slashes list) = decide (0 < slashes) := by
  cases slashes with
  | succ slashes =>
    rw [spell_eq named (.inl (Nat.succ_pos _))]
    simp [isRooted, List.replicate_succ]
  | zero =>
    rcases intercalate_eq named with rfl | ⟨c, rest, printed, spelled⟩
    · rfl
    · have filled : list ≠ [] := by
        rintro rfl
        cases spelled
      rw [spell_eq named (.inr filled), spelled]
      simpa [isRooted] using printed

/-- A name is a path that names only itself. -/
theorem components_name {name : Text} (named : IsName name) : components name = [name] := by
  have single : ∀ other ∈ [name], IsName other := List.forall_mem_singleton.mpr named
  have spelled := components_spell single 0
  rwa [spell_eq single (.inr (List.cons_ne_nil _ _)), List.intercalate_singleton, List.replicate_zero,
    List.nil_append] at spelled

end Spelling

theorem rootSlashes_le (path : Text) : rootSlashes path ≤ 2 := by
  unfold rootSlashes
  split <;> decide

theorem rootSlashes_pos_iff {path : Text} : 0 < rootSlashes path ↔ isRooted path := by
  cases path with
  | nil => simp [rootSlashes, isRooted]
  | cons c rest =>
    by_cases slash : c = '/'
    · subst slash
      unfold rootSlashes
      split <;> simp_all [isRooted]
    · simp [rootSlashes, isRooted, slash]

end Path

end VDiagnostics
