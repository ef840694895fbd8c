import VDiagnostics.Text.Basic

/-! Values under keys, in the order in which the present keys came. Writing to a present key keeps its
place, and a key that was removed comes back at the end. The keys are texts, but those of settings are code
points. -/

namespace VDiagnostics

abbrev Keyed (α : Type) := List (Text × α)

namespace Keyed

variable {κ α : Type}

def keys (entries : List (κ × α)) : List κ :=
  entries.map Prod.fst

variable [DecidableEq κ]

def find? (key : κ) : List (κ × α) → Option α
  | [] => none
  | (present, value) :: rest => if present = key then some value else find? key rest

def put (key : κ) (value : α) : List (κ × α) → List (κ × α)
  | [] => [(key, value)]
  | (present, old) :: rest =>
    if present = key then (present, value) :: rest else (present, old) :: put key value rest

def remove (key : κ) (entries : List (κ × α)) : List (κ × α) :=
  entries.filter fun entry => entry.1 ≠ key

/-- All of the later entries are put into the earlier ones, one after the other. -/
def merge (earlier later : List (κ × α)) : List (κ × α) :=
  later.foldl (fun entries entry => put entry.1 entry.2 entries) earlier

/-- The entries by code point order of their keys, entries of one key in their order. -/
def sorted (entries : Keyed α) : Keyed α :=
  entries.mergeSort fun first second => Text.precedes first.1 second.1

@[simp] theorem find?_put (key other : κ) (value : α) (entries : List (κ × α)) :
    find? other (put key value entries) = if other = key then some value else find? other entries := by
  induction entries with
  | nil => simp [put, find?, eq_comm]
  | cons entry rest ih =>
    obtain ⟨present, old⟩ := entry
    by_cases same : present = key
    · subst same
      by_cases hit : other = present <;> simp [put, find?, hit, eq_comm]
    · by_cases hit : present = other
      · subst hit
        simp [put, find?, same]
      · simp [put, find?, same, hit, ih]

end Keyed

end VDiagnostics
