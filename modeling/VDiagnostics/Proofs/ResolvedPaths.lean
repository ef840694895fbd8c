import VDiagnostics.Proofs.FaultedRuns
import VDiagnostics.Proofs.NormalPaths
import VDiagnostics.Proofs.OutputShapes

/-! What the keys of a collection look like. A file is resolved to the one spelling that its place has, so whatever
spelling the compiler uses for it, its diagnostics come together under one key. -/

namespace VDiagnostics

namespace Path

/-- A path without detours: one slash or two, and then names that lead down, with one slash between any two. -/
def IsCanonical (path : Text) : Prop :=
  ∃ slashes names, (slashes = 1 ∨ slashes = 2) ∧ (∀ name ∈ names, IsProper name) ∧
    path = List.replicate slashes '/' ++ ['/'].intercalate names

theorem Rooted.isCanonical (place : Rooted) : IsCanonical place.path := by
  have starts := place.starts
  have few := place.few
  exact ⟨place.slashes, place.names, by omega, place.proper, spell_eq place.named (.inl starts)⟩

section Joining

/-- What stands between a folder and a path that goes on from it. -/
def gap (folder : Text) : Text :=
  if folder.isEmpty || folder.getLast? == some '/' then [] else ['/']

variable {folder path : Text}

private theorem join_eq (unrooted : isRooted path = false) (folder : Text) :
    join folder path = folder ++ gap folder ++ path := by
  rw [join, unrooted, if_neg Bool.false_ne_true, gap]
  split <;> simp

private theorem isRooted_join_of_unrooted (folderUnrooted : isRooted folder = false)
    (unrooted : isRooted path = false) :
    isRooted (join folder path) = false := by
  cases folder with
  | nil => rwa [join_eq unrooted]
  | cons c rest =>
    rw [join_eq unrooted]
    exact folderUnrooted

/-- What goes on behind a folder ends as it does alone, or as the folder does if it is empty. -/
private theorem gap_append (front folder : Text) : gap (front ++ gap front ++ folder) = gap folder := by
  rcases List.eq_nil_or_concat' folder with rfl | ⟨stem, last, rfl⟩
  · rw [List.append_nil]
    unfold gap
    split
    next ended =>
      rw [List.append_nil, if_pos ended]
      rfl
    next => simp
  · rw [← List.append_assoc]
    simp [gap]

/-- To go on twice is to go on from the one folder with both paths. -/
private theorem join_assoc (cwd folder path : Text) : join (join cwd folder) path = join cwd (join folder path) := by
  cases start : isRooted path with
  | true => rw [join_rooted start, join_rooted start, join_rooted start]
  | false =>
    cases folderStart : isRooted folder with
    | true => rw [join_rooted folderStart, join_rooted (isRooted_join folderStart path)]
    | false =>
      rw [join_eq start, join_eq folderStart, join_eq (isRooted_join_of_unrooted folderStart start), join_eq start,
        gap_append]
      simp only [List.append_assoc]

/-- It does not matter how the folder is spelled that a path goes on from. -/
theorem normalize_join_normalize (rooted : isRooted folder) (path : Text) :
    normalize (join (normalize folder) path) = normalize (join folder path) := by
  cases start : isRooted path with
  | true => rw [join_rooted start, join_rooted start]
  | false =>
    let place := Rooted.ofPath folder rooted
    have slashes : rootSlashes (join place.path path) = rootSlashes (join folder path) := by
      rw [rootSlashes_join place.isRooted_path start, rootSlashes_join rooted start, place.rootSlashes_path]
      rfl
    have names : normalNames (join place.path path) = normalNames (join folder path) := by
      rw [normalNames_join place.isRooted_path start, normalNames_join rooted start, place.normalNames_path]
      rfl
    change normalize (join place.path path) = normalize (join folder path)
    rw [normalize, slashes, names, normalize]

/-- Paths that lead the same way from every place have one place in a folder. -/
theorem normalize_join_congr {cwd other : Text} (rooted : isRooted cwd) (unrooted : isRooted path = false)
    (otherUnrooted : isRooted other = false)
    (same : ∀ below, (components path).foldl (climb true) below = (components other).foldl (climb true) below) :
    normalize (join cwd path) = normalize (join cwd other) := by
  rw [normalize, normalize, rootSlashes_join rooted unrooted, rootSlashes_join rooted otherUnrooted,
    normalNames_join rooted unrooted, normalNames_join rooted otherUnrooted, same]

end Joining

end Path

namespace Diagnostic

open VDiagnostics.Path (IsCanonical IsProper Rooted isRooted)

/-- What it is to name files from a folder. -/
structure Resolves (cwd : Text) : Prop where
  canonical : ∀ file, IsCanonical (resolve cwd file)
  /-- A file that was resolved is meant alike from every folder. -/
  settled : ∀ file folder, resolve folder (resolve cwd file) = resolve cwd file
  composed : ∀ file rest, resolve (resolve cwd file) rest = resolve cwd (Path.join file rest)
  /-- To stay in place on the way is to go the same way. -/
  stayed : ∀ front file, isRooted file = false →
    resolve cwd (Path.join front ("./".toList ++ file)) = resolve cwd (Path.join front file)
  /-- So it is to go into a folder and out of it. -/
  returned : ∀ front name file, IsProper name → isRooted file = false →
    resolve cwd (Path.join front (name ++ "/../".toList ++ file)) = resolve cwd (Path.join front file)

variable {cwd : Text}

private theorem exists_place (rooted : isRooted cwd) (file : Text) : ∃ place : Rooted, resolve cwd file = place.path :=
  ⟨Rooted.ofPath _ (Path.isRooted_join rooted file), rfl⟩

private theorem resolve_resolve (rooted : isRooted cwd) (file rest : Text) :
    resolve (resolve cwd file) rest = resolve cwd (Path.join file rest) := by
  have spelled := Path.normalize_join_normalize (Path.isRooted_join rooted file) rest
  rwa [Path.join_assoc] at spelled

private theorem resolve_stayed (rooted : isRooted cwd) {file : Text} (unrooted : isRooted file = false) :
    resolve cwd ("./".toList ++ file) = resolve cwd file := by
  have cut : Path.components ("./".toList ++ file) = Path.components file := Path.components_append_cons ['.'] file
  exact Path.normalize_join_congr rooted rfl unrooted fun below => by rw [cut]

private theorem resolve_returned (rooted : isRooted cwd) {name file : Text} (proper : IsProper name)
    (unrooted : isRooted file = false) : resolve cwd (name ++ "/../".toList ++ file) = resolve cwd file := by
  have spelled : name ++ "/../".toList ++ file = name ++ '/' :: (['.', '.'] ++ '/' :: file) := by simp
  have cut : Path.components (name ++ "/../".toList ++ file) = name :: ['.', '.'] :: Path.components file := by
    rw [spelled, Path.components_append_cons, Path.components_append_cons, Path.components_name proper.toIsName]
    rfl
  have start : isRooted (name ++ "/../".toList ++ file) = false := by
    obtain ⟨c, others, rfl⟩ := List.exists_cons_of_ne_nil proper.filled
    have printed : c ≠ '/' := by
      rintro rfl
      exact proper.slashless List.mem_cons_self
    simpa [isRooted] using printed
  refine Path.normalize_join_congr rooted start unrooted fun below => ?_
  rw [cut, List.foldl_cons, List.foldl_cons, Path.climb_down proper.descends, Path.climb_up proper.descends]

/-- What holds of each folder that a front leads to holds behind the front. -/
theorem resolves (rooted : isRooted cwd) : Resolves cwd := by
  have led (front : Text) : isRooted (resolve cwd front) := by
    obtain ⟨place, spelled⟩ := exists_place rooted front
    rw [spelled, place.isRooted_path]
  refine ⟨fun file => ?_, fun file folder => ?_, resolve_resolve rooted, fun front file unrooted => ?_,
    fun front name file proper unrooted => ?_⟩
  · obtain ⟨place, spelled⟩ := exists_place rooted file
    rw [spelled]
    exact place.isCanonical
  · obtain ⟨place, spelled⟩ := exists_place rooted file
    rw [spelled]
    exact Path.absolute_rooted place folder
  · rw [← resolve_resolve rooted, ← resolve_resolve rooted, resolve_stayed (led front) unrooted]
  · rw [← resolve_resolve rooted, ← resolve_resolve rooted, resolve_returned (led front) proper unrooted]

end Diagnostic

namespace Collection

/-- All keys are paths without detours. -/
def IsCanonical (collection : Collection) : Prop :=
  ∀ path ∈ collection.paths, Path.IsCanonical path

/-- What was read from an output is in the collection, under one key for each file: there is all that names the
file in any way, in the order in which it was read. -/
structure Gathers (collection : Collection) (cwd : Text) (format : Format) (found : List Record) : Prop where
  canonical : collection.IsCanonical
  single : collection.paths.Nodup
  together : ∀ file, collection.get (Diagnostic.resolve cwd file) =
    Extraction.place cwd format
      (found.filter fun record => Diagnostic.resolve cwd record.file = Diagnostic.resolve cwd file)

end Collection

namespace Extraction

private theorem file_place {cwd : Text} {format : Format} {found : List Record} {diagnostic : Diagnostic}
    (member : diagnostic ∈ place cwd format found) : ∃ file, diagnostic.file = Diagnostic.resolve cwd file := by
  unfold place at member
  split at member
  next => cases member
  next =>
    obtain ⟨record, _, rfl⟩ := List.mem_map.mp member
    exact ⟨record.file, rfl⟩

private theorem ofFile_place (cwd path : Text) (format : Format) (found : List Record) :
    Grouping.ofFile path (place cwd format found) =
      place cwd format (found.filter fun record => Diagnostic.resolve cwd record.file = path) := by
  unfold Grouping.ofFile place
  split
  · rfl
  · rw [List.filter_map]
    rfl

end Extraction

namespace Lint

open Diagnostic (Resolves)

variable {collection : Collection} {document cwd output : Text}

private theorem gathers_apply {result : Result} (rooted : Path.isRooted cwd)
    (answered : (apply collection document cwd output).result = .ok result) :
    ∃ format found, (Extraction.records output).result = .ok (format, found) ∧
      (apply collection document cwd output).state.Gathers cwd format found := by
  obtain ⟨opened, format, found, read, rfl⟩ := StorePolicy.apply_answered answered
  refine ⟨format, found, read, ?_⟩
  rw [(StorePolicy.apply_open document cwd opened read).2]
  refine ⟨fun path member => ?_, ?_, fun file => ?_⟩
  · rw [Collection.paths, Grouping.keys_byFile] at member
    obtain ⟨diagnostic, inside, rfl⟩ := Grouping.mem_files.mp member
    obtain ⟨file, same⟩ := Extraction.file_place inside
    rw [same]
    exact (Diagnostic.resolves rooted).canonical file
  · rw [Collection.paths, Grouping.keys_byFile]
    exact Grouping.files_nodup _
  · rw [Collection.get, Grouping.find?_byFile, Extraction.ofFile_place]

/-- A run that breaks off adds no key, so none is spelled with a detour afterwards. -/
theorem isCanonical_apply (rooted : Path.isRooted cwd) (canonical : collection.IsCanonical) :
    (apply collection document cwd output).state.IsCanonical := by
  cases applied : (apply collection document cwd output).result with
  | ok result =>
    obtain ⟨_, _, _, gathers⟩ := gathers_apply rooted applied
    exact gathers.canonical
  | error fault =>
    rcases FaultedRuns.apply_fault_cases applied with ⟨_, kept⟩ | ⟨_, _, emptied⟩
    · rwa [kept]
    · rw [emptied]
      simp [Collection.IsCanonical, Collection.paths, Keyed.keys]

private theorem isCanonical_of_mem {deliveries : List Delivery} (canonical : collection.IsCanonical)
    (rooted : ∀ delivery ∈ deliveries, Path.isRooted delivery.cwd) :
    ∀ taken ∈ history collection deliveries, taken.state.IsCanonical := by
  induction deliveries generalizing collection with
  | nil => simp [history]
  | cons delivery rest ih =>
    obtain ⟨first, others⟩ := List.forall_mem_cons.mp rooted
    have kept := @isCanonical_apply collection delivery.document delivery.cwd delivery.output first canonical
    exact List.forall_mem_cons.mpr ⟨kept, ih kept others⟩

/-- From an absolute folder every file name has one place, without detours and the same for all spellings that differ
by detours. A run keeps the diagnostics of a file under that place, and no run of a history brings another key. -/
theorem keys_canonical (rooted : Path.isRooted cwd) :
    Resolves cwd ∧
      (∀ (collection : Collection) (document output : Text) (result : Result),
        (apply collection document cwd output).result = .ok result →
          ∃ format found, (Extraction.records output).result = .ok (format, found) ∧
            (apply collection document cwd output).state.Gathers cwd format found) ∧
      ∀ (collection : Collection) (deliveries : List Delivery), collection.IsCanonical →
        (∀ delivery ∈ deliveries, Path.isRooted delivery.cwd) →
          ∀ taken ∈ history collection deliveries, taken.state.IsCanonical :=
  ⟨Diagnostic.resolves rooted, fun _ _ _ _ => gathers_apply rooted, fun _ _ => isCanonical_of_mem⟩

/-- One file under three spellings and its neighbour, from a folder with two slashes that is spelled the long way. -/
theorem keys_canonical_detours :
    let cwd := "//w/x/./..".toList
    let output := "warning: a.v:1:2: p\nwarning: b.v:3:4: q\nwarning: ./a.v:5:6: r\nwarning: sub/../a.v:7:8: s".toList
    let deliveries : List Delivery := [⟨"/a.v".toList, cwd, output⟩, ⟨"/b.v".toList, "/w".toList, output⟩]
    let filled := (apply (Collection.empty Diagnostic.source) "/a.v".toList cwd output).state
    Path.isRooted cwd ∧ filled.IsCanonical ∧
      (filled.get "//w/a.v".toList).map Diagnostic.message = [['p'], ['r'], ['s']] ∧
      (filled.get "//w/b.v".toList).map Diagnostic.message = [['q']] ∧
      Diagnostic.resolve cwd "sub/../a.v".toList = Diagnostic.resolve cwd "./a.v".toList ∧
      Diagnostic.resolve (Diagnostic.resolve cwd "x".toList) "../lib/a.v".toList = "//w/lib/a.v".toList ∧
      ∀ taken ∈ history (Collection.empty Diagnostic.source) deliveries, taken.state.IsCanonical := by
  intro cwd output deliveries filled
  have rooted : Path.isRooted cwd := by decide
  let records : List Record :=
    [⟨"a.v".toList, .known 1, .known 2, ['p'], output⟩, ⟨"b.v".toList, .known 3, .known 4, ['q'], output⟩,
      ⟨"./a.v".toList, .known 5, .known 6, ['r'], output⟩, ⟨"sub/../a.v".toList, .known 7, .known 8, ['s'], output⟩]
  have read : (Extraction.records output).result = .ok (.warning, records) := by decide +kernel
  have answered := (@StorePolicy.apply_open (Collection.empty Diagnostic.source) "/a.v".toList cwd _ _ _ rfl read).1
  obtain ⟨resolves, gathered, kept⟩ := keys_canonical rooted
  obtain ⟨format, found, same, gathers⟩ := gathered _ _ _ _ answered
  obtain ⟨rfl, rfl⟩ : .warning = format ∧ records = found := by
    simpa using Except.ok.inj (read.symm.trans same)
  have back := resolves.returned [] "sub".toList "a.v".toList (by decide) (by decide)
  have stay := resolves.stayed [] "a.v".toList (by decide)
  refine ⟨rooted, gathers.canonical, ?_, ?_, back.trans stay.symm, ?_, ?_⟩
  · have place : "//w/a.v".toList = Diagnostic.resolve cwd "a.v".toList := by decide
    rw [place, gathers.together]
    decide
  · have place : "//w/b.v".toList = Diagnostic.resolve cwd "b.v".toList := by decide
    rw [place, gathers.together]
    decide
  · rw [resolves.composed]
    decide
  · have canonical : (Collection.empty Diagnostic.source).IsCanonical := by
      simp [Collection.IsCanonical, Collection.paths, Collection.empty, Keyed.keys]
    exact kept _ deliveries canonical (by decide)

end Lint

end VDiagnostics
