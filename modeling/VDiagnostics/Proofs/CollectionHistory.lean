import VDiagnostics.Proofs.KeyedEntries
import VDiagnostics.Proofs.StorePolicy

/-! A collection is an ordered map from paths to diagnostics that holds nothing at first. What it holds, and
in which order, follows from the history of requests alone: a path comes in at the end, keeps its place while
it has diagnostics, and has to come in anew after it was removed. -/

namespace VDiagnostics

namespace Collection

inductive Request where
  | set (path : Text) (diagnostics : List Diagnostic)
  | append (path : Text) (diagnostic : Diagnostic)
  | delete (path : Text)
  | clear
  | dispose
  /-- Any of the questions `get`, `contains`, `size` and `paths`, or a look at the entries. -/
  | ask
  deriving DecidableEq

def perform (collection : Collection) : Request → Except Fault Collection
  | .set path diagnostics => collection.set path diagnostics
  | .append path diagnostic => collection.append path diagnostic
  | .delete path => collection.delete path
  | .clear => collection.clear
  | .dispose => .ok collection.dispose
  | .ask => .ok collection

/-- A request that is refused leaves the collection as it was. -/
def step (collection : Collection) (request : Request) : Collection :=
  match collection.perform request with
  | .ok next => next
  | .error _ => collection

/-- The requests to a collection so far, the latest first. -/
abbrev History := List Request

def replay (name : Text) : History → Collection
  | [] => empty name
  | latest :: earlier => (replay name earlier).step latest

/-- Whether a request would change a collection that is open, and one that was disposed of refuses it. -/
def Request.writes : Request → Bool
  | .set _ _ | .append _ _ | .delete _ | .clear => true
  | .dispose | .ask => false

/-- What a request that is not refused makes of the diagnostics that a path had. -/
def Request.effect (path : Text) (old : List Diagnostic) : Request → List Diagnostic
  | .set target diagnostics => if path = target then diagnostics else old
  | .append target diagnostic => if path = target then old ++ [diagnostic] else old
  | .delete target => if path = target then [] else old
  | .clear | .dispose => []
  | .ask => old

/-- The map that a history leaves: what each path has, and nothing by default. -/
def content (path : Text) : History → List Diagnostic
  | [] => []
  | latest :: earlier => if .dispose ∈ earlier then [] else latest.effect path (content path earlier)

/-- When a path that had nothing came in for the last time. -/
def arrival (path : Text) : History → Nat
  | [] => 0
  | latest :: earlier =>
    if content path earlier = [] ∧ content path (latest :: earlier) ≠ [] then earlier.length + 1
    else arrival path earlier

private theorem arrival_le (path : Text) (history : History) : arrival path history ≤ history.length := by
  induction history with
  | nil => exact Nat.le_refl 0
  | cons latest earlier ih =>
    rw [arrival, List.length_cons]
    split
    · exact Nat.le_refl _
    · exact Nat.le_succ_of_le ih

private theorem arrival_kept {path : Text} {earlier : History} (held : content path earlier ≠ []) (latest : Request) :
    arrival path (latest :: earlier) = arrival path earlier := by
  simp [arrival, held]

private theorem arrival_new {path : Text} {latest : Request} {earlier : History} (absent : content path earlier = [])
    (held : content path (latest :: earlier) ≠ []) : arrival path (latest :: earlier) = earlier.length + 1 := by
  simp [arrival, absent, held]

/-- No path is listed twice or without diagnostics. -/
structure Sound (collection : Collection) : Prop where
  distinct : collection.paths.Nodup
  filled : ∀ entry ∈ collection.entries, entry.2 ≠ []

private theorem mem_paths_iff {collection : Collection} (sound : collection.Sound) (path : Text) :
    path ∈ collection.paths ↔ collection.get path ≠ [] := by
  rw [paths, ← Keyed.isSome_find?, get]
  cases found : Keyed.find? path collection.entries with
  | none => simp
  | some diagnostics => simpa using sound.filled _ (Keyed.mem_of_find? found)

private theorem contains_iff {collection : Collection} (sound : collection.Sound) (path : Text) :
    collection.contains path ↔ collection.get path ≠ [] := by
  rw [← mem_paths_iff sound, contains, Keyed.isSome_find?, paths]

/-- All that a request can do to an open collection: every path has what the request makes of it, those that
are left with nothing drop out of the list, and at most one comes in at its end. -/
structure Edits (old new : Collection) (request : Request) : Prop where
  named : new.name = old.name
  sound : new.Sound
  held : ∀ path, new.get path = request.effect path (old.get path)
  listed : ∃ added : Option Text, (∀ path ∈ added, path ∉ old.paths) ∧
    new.paths = (old.paths.filter fun path => new.get path ≠ []) ++ added.toList

private theorem edits_put {old : Collection} (sound : old.Sound) {path : Text} {diagnostics : List Diagnostic}
    {request : Request} (filled : diagnostics ≠ [])
    (effect : ∀ other, request.effect other (old.get other) = if other = path then diagnostics else old.get other) :
    Edits old { old with entries := Keyed.put path diagnostics old.entries } request := by
  let new : Collection := { old with entries := Keyed.put path diagnostics old.entries }
  have held : ∀ other, new.get other = if other = path then diagnostics else old.get other := by
    intro other
    rw [get, Keyed.find?_put]
    split <;> rfl
  have listed : new.paths = if path ∈ old.paths then old.paths else old.paths ++ [path] := Keyed.keys_put _ _ _
  have kept : old.paths.filter (fun other => new.get other ≠ []) = old.paths := by
    apply List.filter_eq_self.mpr
    intro other member
    by_cases same : other = path
    · simpa [held, same] using filled
    · simpa [held, same] using (mem_paths_iff sound other).mp member
  refine ⟨rfl, ⟨?_, ?_⟩, fun other => (held other).trans (effect other).symm, ?_⟩
  · change new.paths.Nodup
    rw [listed]
    split
    next present => exact sound.distinct
    next absent =>
      refine List.nodup_append.mpr ⟨sound.distinct, by simp, ?_⟩
      intro other member last same equal
      rw [List.mem_singleton.mp same] at equal
      exact absent (equal ▸ member)
  · intro entry member
    rcases Keyed.mem_put member with rfl | member
    · exact filled
    · exact sound.filled entry member
  · change ∃ added : Option Text, _ ∧ new.paths = old.paths.filter (fun other => new.get other ≠ []) ++ _
    rw [kept, listed]
    split
    next present => exact ⟨none, by simp, by simp⟩
    next absent => exact ⟨some path, by simpa using absent, rfl⟩

private theorem edits_remove {old : Collection} (sound : old.Sound) {path : Text} {request : Request}
    (effect : ∀ other, request.effect other (old.get other) = if other = path then [] else old.get other) :
    Edits old { old with entries := Keyed.remove path old.entries } request := by
  let new : Collection := { old with entries := Keyed.remove path old.entries }
  have held : ∀ other, new.get other = if other = path then [] else old.get other := by
    intro other
    rw [get, Keyed.find?_remove]
    split <;> rfl
  have listed : new.paths = old.paths.filter (· ≠ path) := Keyed.keys_remove _ _
  refine ⟨rfl, ⟨?_, ?_⟩, fun other => (held other).trans (effect other).symm, none, by simp, ?_⟩
  · change new.paths.Nodup
    rw [listed]
    exact sound.distinct.filter _
  · intro entry member
    exact sound.filled entry (List.mem_filter.mp member).1
  · change new.paths = old.paths.filter (fun other => new.get other ≠ []) ++ _
    rw [listed, Option.toList_none, List.append_nil]
    apply List.filter_congr
    intro other member
    by_cases gone : other = path
    · simp [held, gone]
    · simpa [held, gone] using (mem_paths_iff sound other).mp member

private theorem edits_clear (old : Collection) {request : Request} (disposed : Bool)
    (effect : ∀ path, request.effect path (old.get path) = []) :
    Edits old { old with entries := [], disposed := disposed } request := by
  refine ⟨rfl, ⟨List.nodup_nil, by simp⟩, fun path => (effect path).symm, none, by simp, ?_⟩
  simp [paths, Keyed.keys, get, Keyed.find?]

private theorem edits_nothing {old : Collection} (sound : old.Sound) : Edits old old .ask := by
  refine ⟨rfl, sound, fun path => rfl, none, by simp, ?_⟩
  rw [Option.toList_none, List.append_nil, List.filter_eq_self.mpr]
  intro path member
  exact decide_eq_true ((mem_paths_iff sound path).mp member)

/-- An open collection takes every request. -/
theorem perform_open {collection : Collection} (sound : collection.Sound) (opened : collection.disposed = false)
    (request : Request) :
    ∃ next, collection.perform request = .ok next ∧ Edits collection next request ∧
      next.disposed = decide (request = .dispose) := by
  cases request with
  | set path diagnostics =>
    cases diagnostics with
    | nil =>
      have taken : collection.set path [] =
          .ok { collection with entries := Keyed.remove path collection.entries } := StorePolicy.change_open opened _
      exact ⟨_, taken, edits_remove sound fun other => rfl, opened⟩
    | cons first rest =>
      have taken : collection.set path (first :: rest) =
          .ok { collection with entries := Keyed.put path (first :: rest) collection.entries } :=
        StorePolicy.change_open opened _
      exact ⟨_, taken, edits_put sound (by simp) fun other => rfl, opened⟩
  | append path diagnostic =>
    refine ⟨_, StorePolicy.change_open opened _, edits_put sound (by simp) fun other => ?_, opened⟩
    by_cases same : other = path
    · subst same
      simp [Request.effect, get]
    · simp [Request.effect, same]
  | delete path => exact ⟨_, StorePolicy.change_open opened _, edits_remove sound fun other => rfl, opened⟩
  | clear =>
    have taken : collection.clear = .ok { collection with entries := [] } := StorePolicy.change_open opened _
    exact ⟨_, taken, edits_clear collection collection.disposed fun path => rfl, opened⟩
  | dispose => exact ⟨_, rfl, edits_clear collection true fun path => rfl, rfl⟩
  | ask => exact ⟨_, rfl, edits_nothing sound, opened⟩

private theorem perform_disposed {collection : Collection} (disposed : collection.disposed = true) {request : Request}
    (writes : request.writes = true) : collection.perform request = .error (.disposed collection.name) := by
  cases request with
  | set | append | delete | clear => exact if_pos disposed
  | dispose | ask => cases writes

/-- Nothing is left after a disposal, whatever was asked for since. -/
theorem content_disposed {history : History} (disposed : .dispose ∈ history) (path : Text) :
    content path history = [] := by
  cases history with
  | nil => rfl
  | cons latest earlier =>
    rw [content]
    split
    · rfl
    next opened =>
      obtain rfl : .dispose = latest := by simpa [opened] using disposed
      rfl

/-- The collection is what its history says. -/
structure Follows (name : Text) (history : History) (collection : Collection) : Prop where
  named : collection.name = name
  disposed : collection.disposed = decide (.dispose ∈ history)
  sound : collection.Sound
  held : ∀ path, collection.get path = content path history
  ordered : collection.paths.Pairwise fun first second => arrival first history < arrival second history

theorem Follows.entries_disposed {name : Text} {history : History} {collection : Collection}
    (follows : Follows name history collection) (disposed : .dispose ∈ history) : collection.entries = [] := by
  apply List.map_eq_nil_iff.mp
  apply List.eq_nil_iff_forall_not_mem.mpr
  intro path member
  apply (mem_paths_iff follows.sound path).mp member
  rw [follows.held, content_disposed disposed]

/-- A path that stays listed keeps its arrival, and one that comes in arrives after all others. -/
theorem Follows.edited {name : Text} {earlier : History} {old new : Collection} {latest : Request}
    (follows : Follows name earlier old) (opened : .dispose ∉ earlier) (edits : Edits old new latest)
    (disposed : new.disposed = decide (latest = .dispose)) : Follows name (latest :: earlier) new := by
  have held : ∀ path, new.get path = content path (latest :: earlier) := by
    intro path
    rw [edits.held, follows.held, content, if_neg opened]
  have stays : ∀ path ∈ old.paths, arrival path (latest :: earlier) = arrival path earlier := by
    intro path member
    apply arrival_kept
    rw [← follows.held]
    exact (mem_paths_iff follows.sound path).mp member
  obtain ⟨added, fresh, listed⟩ := edits.listed
  refine ⟨edits.named.trans follows.named, ?_, edits.sound, held, ?_⟩
  · simp [disposed, opened, eq_comm]
  · rw [listed, List.pairwise_append]
    refine ⟨?_, ?_, ?_⟩
    · apply (follows.ordered.filter _).imp_of_mem
      intro first second inFirst inSecond before
      rwa [stays first (List.mem_filter.mp inFirst).1, stays second (List.mem_filter.mp inSecond).1]
    · cases added <;> simp
    · intro first inFirst second inSecond
      have came : second ∈ added := Option.mem_toList.mp inSecond
      have absent : content second earlier = [] := by
        rw [← follows.held]
        exact not_not.mp (mt (mem_paths_iff follows.sound second).mpr (fresh second came))
      have present : content second (latest :: earlier) ≠ [] := by
        rw [← held]
        apply (mem_paths_iff edits.sound second).mp
        rw [listed]
        exact List.mem_append_right _ inSecond
      rw [stays first (List.mem_filter.mp inFirst).1, arrival_new absent present]
      exact Nat.lt_succ_of_le (arrival_le first earlier)

theorem Follows.step {name : Text} {earlier : History} {collection : Collection}
    (follows : Follows name earlier collection) (latest : Request) :
    Follows name (latest :: earlier) (collection.step latest) := by
  by_cases opened : .dispose ∈ earlier
  · -- Everything is refused but what changes nothing in an empty collection.
    have emptied := follows.entries_disposed opened
    have disposed : collection.disposed = true := by simp [follows.disposed, opened]
    have same : collection.step latest = collection := by
      cases writes : latest.writes with
      | true => rw [Collection.step, perform_disposed disposed writes]
      | false =>
        cases latest with
        | set | append | delete | clear => cases writes
        | dispose =>
          obtain ⟨name, entries, disposed⟩ := collection
          cases emptied
          cases disposed
          rfl
        | ask => rfl
    rw [same]
    refine ⟨follows.named, by simp [disposed, opened], follows.sound, ?_, ?_⟩
    · intro path
      rw [follows.held, content_disposed opened, content_disposed (List.mem_cons_of_mem _ opened)]
    · simp [paths, emptied, Keyed.keys]
  · have open' : collection.disposed = false := by simp [follows.disposed, opened]
    obtain ⟨next, taken, edits, disposed⟩ := perform_open follows.sound open' latest
    rw [Collection.step, taken]
    exact follows.edited opened edits disposed

private theorem follows_replay (name : Text) (history : History) : Follows name history (replay name history) := by
  induction history with
  | nil => exact ⟨rfl, rfl, ⟨List.nodup_nil, by simp [empty, replay]⟩, fun path => rfl, List.Pairwise.nil⟩
  | cons latest earlier ih => exact ih.step latest

/-- After any history a collection is the ordered map that the history leaves. Each path that has diagnostics is
listed once, in the order of arrival, and no other path is. An open collection takes every request and does to it
what the request says; one that was disposed of stays empty and refuses to be changed. -/
theorem replay_refines_map (name : Text) (history : History) :
    let collection := replay name history
    (∀ path, collection.get path = content path history ∧
        (collection.contains path ↔ content path history ≠ []) ∧
        (path ∈ collection.paths ↔ content path history ≠ [])) ∧
      collection.Sound ∧ collection.size = collection.paths.length ∧
      collection.paths.Pairwise (fun first second => arrival first history < arrival second history) ∧
      (.dispose ∉ history → ∀ request, ∃ next, collection.perform request = .ok next ∧
        Edits collection next request) ∧
      (.dispose ∈ history → collection.entries = [] ∧ ∀ request : Request, request.writes →
        collection.perform request = .error (.disposed name) ∧ collection.step request = collection) := by
  intro collection
  have follows : Follows name history collection := follows_replay name history
  refine ⟨fun path => ?_, follows.sound, ?_, follows.ordered, ?_, ?_⟩
  · rw [contains_iff follows.sound, mem_paths_iff follows.sound, follows.held]
    exact ⟨rfl, Iff.rfl, Iff.rfl⟩
  · exact (List.length_map _).symm
  · intro opened request
    have open' : collection.disposed = false := by simp [follows.disposed, opened]
    obtain ⟨next, taken, edits, _⟩ := perform_open follows.sound open' request
    exact ⟨next, taken, edits⟩
  · intro disposed
    refine ⟨follows.entries_disposed disposed, fun request writes => ?_⟩
    have closed : collection.disposed = true := by simp [follows.disposed, disposed]
    have refused := perform_disposed closed writes
    rw [follows.named] at refused
    exact ⟨refused, by rw [Collection.step, refused]⟩

/-- A path that was removed comes in anew, behind those that stayed. -/
example (first second : Diagnostic) :
    (replay ['V'] [.append ['a'] second, .delete ['a'], .append ['b'] first, .append ['a'] first]).paths =
      [['b'], ['a']] := rfl

end Collection

end VDiagnostics
