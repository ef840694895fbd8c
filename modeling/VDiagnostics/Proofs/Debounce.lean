import Mathlib.Algebra.Order.Group.Defs
import Mathlib.Algebra.Order.Group.Int
import VDiagnostics.Watch

/-! When a watch fires. It keeps the time of its latest firing and nothing else, so an event that does not concern it
leaves no mark, no two firings share a window, and a save is held back only while the latest firing's window lasts.
Times are exact, and the clock may go back. -/

namespace VDiagnostics

namespace SaveEvent

variable {clock : Type}

/-- The event is a save of a source in the folder, and the path is where the source is. -/
structure Concerns (cwd folder : Text) (event : SaveEvent clock) (path : Text) : Prop where
  isFile : event.isFolder = false
  placed : Watch.placed cwd event.path = .ok path
  inFolder : Path.folder path = folder
  isSource : Path.isSource path

def Qualifies (cwd folder : Text) (event : SaveEvent clock) : Prop :=
  ∃ path, event.Concerns cwd folder path

variable {cwd folder : Text} {event : SaveEvent clock}

private theorem qualifies_iff : event.Qualifies cwd folder ↔
    (!event.isFolder && (Watch.placed cwd event.path).toOption.any fun path =>
      Path.folder path == folder && Path.isSource path) = true := by
  rw [Bool.and_eq_true, Bool.not_eq_true', Option.any_eq_true]
  constructor
  · intro ⟨path, concerned⟩
    refine ⟨concerned.isFile, path, by rw [concerned.placed]; rfl, ?_⟩
    rw [concerned.inFolder, beq_self_eq_true, concerned.isSource, Bool.and_self]
  · intro ⟨isFile, path, found, covered⟩
    obtain ⟨inFolder, isSource⟩ := Bool.and_eq_true_iff.mp covered
    cases placed : Watch.placed cwd event.path with
    | error fault =>
      rw [placed] at found
      cases found
    | ok place =>
      rw [placed] at found
      obtain rfl := Option.some.inj found
      exact ⟨place, isFile, placed, beq_iff_eq.mp inFolder, isSource⟩

instance : Decidable (event.Qualifies cwd folder) :=
  decidable_of_iff _ qualifies_iff.symm

end SaveEvent

namespace Watch

structure Firing (clock : Type) where
  path : Text
  time : clock
  deriving DecidableEq

/-- The time of the latest firing. A watch starts as if it had fired at time zero. -/
def latest {clock : Type} [Zero clock] (firings : List (Firing clock)) : clock :=
  (firings.getLast?.map Firing.time).getD 0

section Guarded

variable {clock : Type}

/-- What stays the same about a watch. -/
structure Guards (watch : Watch clock) (folder : Text) (window : clock) : Prop where
  folder : watch.folder = folder
  window : watch.window = some window

variable {cwd folder : Text} {window : clock} {watch : Watch clock}

private theorem covers_iff (guards : watch.Guards folder window) (path : Text) :
    watch.covers path ↔ Path.folder path = folder ∧ Path.isSource path := by
  rw [covers, guards.folder, Bool.and_eq_true, beq_iff_eq]

theorem eq_of_ofFolder {target : Text} {span : Option clock} {start : clock}
    (created : ofFolder cwd target span start = .ok watch) : watch = ⟨Path.place cwd target, span, start⟩ := by
  unfold ofFolder placed at created
  split at created
  · cases created
  · exact (Except.ok.inj created).symm

end Guarded

section Runs

variable {clock : Type} [Sub clock] [LT clock] [DecidableLT clock]

/-- What an event leads to. An event that is refused leads to nothing. -/
def meet (cwd : Text) (watch : Watch clock) (event : SaveEvent clock) : Option (Firing clock) × Watch clock :=
  match watch.notice cwd event with
  | .ok (fired, next) => (fired.map fun path => ⟨path, event.time⟩, next)
  | .error _ => (none, watch)

def after (cwd : Text) : Watch clock → List (SaveEvent clock) → Watch clock
  | watch, [] => watch
  | watch, event :: rest => (watch.meet cwd event).2.after cwd rest

def firings (cwd : Text) : Watch clock → List (SaveEvent clock) → List (Firing clock)
  | _, [] => []
  | watch, event :: rest => (watch.meet cwd event).1.toList ++ (watch.meet cwd event).2.firings cwd rest

variable {cwd folder : Text} {window : clock} {watch : Watch clock}

private theorem notice_concerned (guards : watch.Guards folder window) {event : SaveEvent clock} {path : Text}
    (concerned : event.Concerns cwd folder path) : watch.notice cwd event = watch.fire path event.time := by
  have covered : watch.covers path := (covers_iff guards path).mpr ⟨concerned.inFolder, concerned.isSource⟩
  rw [notice, concerned.isFile, if_neg Bool.false_ne_true, concerned.placed]
  exact if_pos covered

private theorem meet_unconcerned (guards : watch.Guards folder window) {event : SaveEvent clock}
    (apart : ¬ event.Qualifies cwd folder) : watch.meet cwd event = (none, watch) := by
  cases isFile : event.isFolder with
  | true =>
    rw [meet, notice, isFile, if_pos rfl]
    rfl
  | false =>
    rw [meet, notice, isFile, if_neg Bool.false_ne_true]
    cases placed : Watch.placed cwd event.path with
    | error fault => rfl
    | ok path =>
      have uncovered : ¬ watch.covers path := by
        intro covered
        obtain ⟨inFolder, isSource⟩ := (covers_iff guards path).mp covered
        exact apart ⟨path, isFile, placed, inFolder, isSource⟩
      simp only [bind, Except.bind, if_neg uncovered, Option.map_none]

/-- An event fires, is held back since the window lasts, or is none of the watch's business. -/
theorem meet_cases (guards : watch.Guards folder window) (cwd : Text) (event : SaveEvent clock) :
    (∃ path, event.Concerns cwd folder path ∧ window < event.time - watch.last ∧
      watch.meet cwd event = (some ⟨path, event.time⟩, { watch with last := event.time })) ∨
    (event.Qualifies cwd folder ∧ ¬ window < event.time - watch.last ∧ watch.meet cwd event = (none, watch)) ∨
    (¬ event.Qualifies cwd folder ∧ watch.meet cwd event = (none, watch)) := by
  by_cases qualified : event.Qualifies cwd folder
  · obtain ⟨path, concerned⟩ := qualified
    by_cases due : window < event.time - watch.last
    · refine .inl ⟨path, concerned, due, ?_⟩
      simp only [meet, notice_concerned guards concerned, fire, guards.window, if_pos due, Option.map_some]
    · refine .inr (.inl ⟨⟨path, concerned⟩, due, ?_⟩)
      simp only [meet, notice_concerned guards concerned, fire, guards.window, if_neg due, Option.map_none]
  · exact .inr (.inr ⟨qualified, meet_unconcerned guards qualified⟩)

/-- Without a firing a watch stays as it is. -/
theorem meet_fires_or_stays (guards : watch.Guards folder window) (cwd : Text) (event : SaveEvent clock) :
    (∃ path, event.Concerns cwd folder path ∧ window < event.time - watch.last ∧
      watch.meet cwd event = (some ⟨path, event.time⟩, { watch with last := event.time })) ∨
    watch.meet cwd event = (none, watch) := by
  obtain fires | ⟨_, _, met⟩ | ⟨_, met⟩ := meet_cases guards cwd event
  · exact .inl fires
  · exact .inr met
  · exact .inr met

/-- Only the time of the latest firing changes. -/
theorem Guards.meet (guards : watch.Guards folder window) (cwd : Text) (event : SaveEvent clock) :
    (watch.meet cwd event).2.Guards folder window := by
  obtain ⟨path, _, _, met⟩ | met := meet_fires_or_stays guards cwd event
  · rw [met]
    exact ⟨guards.folder, guards.window⟩
  · rwa [met]

theorem Guards.after (guards : watch.Guards folder window) (cwd : Text) (events : List (SaveEvent clock)) :
    (watch.after cwd events).Guards folder window := by
  induction events generalizing watch with
  | nil => exact guards
  | cons event rest ih => exact ih (guards.meet cwd event)

/-- Events that do not qualify might as well not have happened. -/
private theorem firings_filter (guards : watch.Guards folder window) (cwd : Text) (events : List (SaveEvent clock)) :
    watch.firings cwd (events.filter fun event => event.Qualifies cwd folder) = watch.firings cwd events := by
  induction events generalizing watch with
  | nil => rfl
  | cons event rest ih =>
    by_cases qualified : event.Qualifies cwd folder
    · rw [List.filter_cons, if_pos (decide_eq_true qualified), firings, firings, ih (guards.meet cwd event)]
    -- The watch goes on as it was, so what is left over fires as if the event had been met.
    · rw [List.filter_cons, if_neg (by simpa using qualified), ih guards, firings, meet_unconcerned guards qualified]
      rfl

end Runs

section Times

variable {clock : Type} [AddCommGroup clock] [LinearOrder clock]
variable {cwd folder : Text} {window : clock} {watch : Watch clock}

/-- The kept time is that of the latest firing, or the first one as long as nothing fired. -/
private theorem last_after (guards : watch.Guards folder window) (cwd : Text) (events : List (SaveEvent clock)) :
    (watch.after cwd events).last = ((watch.firings cwd events).getLast?.map Firing.time).getD watch.last := by
  induction events generalizing watch with
  | nil => rfl
  | cons event rest ih =>
    rw [after, firings, ih (guards.meet cwd event), List.getLast?_append]
    obtain ⟨path, _, _, met⟩ | met := meet_fires_or_stays guards cwd event
    · rw [met]
      cases (Watch.firings cwd { watch with last := event.time } rest).getLast? <;> rfl
    · rw [met, Option.toList_none, List.getLast?_nil, Option.or_none]

variable [IsOrderedAddMonoid clock]

/-- Whatever fires does so more than a window after the time that the watch keeps. -/
private theorem lt_sub_of_mem_firings (guards : watch.Guards folder window) (nonneg : 0 ≤ window)
    {events : List (SaveEvent clock)} : ∀ firing ∈ watch.firings cwd events, window < firing.time - watch.last := by
  induction events generalizing watch with
  | nil =>
    intro firing member
    cases member
  | cons event rest ih =>
    intro firing member
    have later := ih (guards.meet cwd event) firing
    rw [firings] at member
    obtain ⟨path, _, due, met⟩ | met := meet_fires_or_stays guards cwd event
    · rw [met] at later member
      rcases List.mem_cons.mp member with rfl | behind
      · exact due
      -- A later firing is a window behind this one, which is itself a window behind the kept time.
      · calc window
          _ ≤ window + window := le_add_of_nonneg_right nonneg
          _ < (firing.time - event.time) + (event.time - watch.last) := add_lt_add (later behind) due
          _ = firing.time - watch.last := sub_add_sub_cancel _ _ _
    · rw [met] at later member
      exact later member

private theorem firings_apart (guards : watch.Guards folder window) (nonneg : 0 ≤ window) (cwd : Text)
    (events : List (SaveEvent clock)) :
    (watch.firings cwd events).Pairwise fun first second => window < second.time - first.time := by
  induction events generalizing watch with
  | nil => exact List.Pairwise.nil
  | cons event rest ih =>
    have kept := guards.meet cwd event
    have later := ih kept
    have gap := @lt_sub_of_mem_firings _ _ _ cwd _ _ _ _ kept nonneg rest
    rw [firings]
    obtain ⟨path, _, _, met⟩ | met := meet_fires_or_stays guards cwd event
    · rw [met] at later gap ⊢
      exact List.pairwise_cons.mpr ⟨gap, later⟩
    · rw [met] at later ⊢
      exact later

/-- What holds of all that a watch meets, event by event and as a whole. -/
structure Debounced (watch : Watch clock) (cwd folder : Text) (window : clock) (events : List (SaveEvent clock)) :
    Prop where
  qualified : ∀ front event back firing, events = front ++ event :: back →
    ((watch.after cwd front).meet cwd event).1 = some firing →
      event.Concerns cwd folder firing.path ∧ firing.time = event.time
  apart : (watch.firings cwd events).Pairwise fun first second => window < second.time - first.time
  /-- A save is held back just as long as the window of the latest firing before it lasts. -/
  held : ∀ front event back, events = front ++ event :: back → event.Qualifies cwd folder →
    (((watch.after cwd front).meet cwd event).1 = none ↔ event.time - latest (watch.firings cwd front) ≤ window)
  unmarked : watch.firings cwd (events.filter fun event => event.Qualifies cwd folder) = watch.firings cwd events

/-- A new watch on a folder fires for the saves in it, once in each window and never later than it has to. -/
theorem debounced {target : Text} (created : ofFolder cwd target (some window) 0 = .ok watch) (nonneg : 0 ≤ window)
    (events : List (SaveEvent clock)) : watch.Debounced cwd (Path.place cwd target) window events := by
  obtain rfl := eq_of_ofFolder created
  have guards : (⟨Path.place cwd target, some window, 0⟩ : Watch clock).Guards (Path.place cwd target) window :=
    ⟨rfl, rfl⟩
  refine ⟨?_, firings_apart guards nonneg cwd events, ?_, firings_filter guards cwd events⟩
  · intro front event back firing _ fired
    obtain ⟨path, concerned, _, met⟩ | met := meet_fires_or_stays (guards.after cwd front) cwd event
    · rw [met] at fired
      obtain rfl := Option.some.inj fired
      exact ⟨concerned, rfl⟩
    · rw [met] at fired
      cases fired
  · intro front event back _ qualified
    obtain ⟨path, _, due, met⟩ | ⟨_, early, met⟩ | ⟨unqualified, _⟩ := meet_cases (guards.after cwd front) cwd event
    · rw [last_after guards] at due
      rw [met]
      exact iff_of_false (Option.some_ne_none _) (not_le.mpr due)
    · rw [last_after guards] at early
      rw [met]
      exact iff_of_true rfl (not_lt.mp early)
    · exact absurd qualified unqualified

/-- A burst of saves, with a note, a folder and a file elsewhere among them, and a clock that goes back. -/
theorem debounced_burst :
    let events : List (SaveEvent ℤ) :=
      [⟨"/w/q/n.txt".toList, 3, false⟩, ⟨"/w/q/a.v".toList, 4, false⟩, ⟨"q/../q/b.v".toList, 6, false⟩,
        ⟨"/w/q/c.v".toList, 6, true⟩, ⟨"/w/a.v".toList, 7, false⟩, ⟨"/w/q/a.v".toList, 1, false⟩,
        ⟨"//w/q/./b.v".toList, 7, false⟩]
    let watch : Watch ℤ := ⟨"/w/q".toList, some 2, 0⟩
    ofFolder "/w".toList "q/".toList (some (2 : ℤ)) 0 = .ok watch ∧ (0 : ℤ) ≤ 2 ∧
      watch.Debounced "/w".toList (Path.place "/w".toList "q/".toList) 2 events ∧
      watch.firings "/w".toList events = [⟨"/w/q/a.v".toList, 4⟩, ⟨"/w/q/b.v".toList, 7⟩] := by
  intro events watch
  have created : ofFolder "/w".toList "q/".toList (some (2 : ℤ)) 0 = .ok watch := by rfl
  exact ⟨created, by decide, debounced created (by decide) events, by decide⟩

end Times

end Watch

end VDiagnostics
