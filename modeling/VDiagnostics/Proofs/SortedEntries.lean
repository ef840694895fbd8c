import VDiagnostics.Proofs.KeyedEntries
import Mathlib.Data.Char
import Mathlib.Data.List.Lex

/-! Entries by code point order of their keys. Keys that are all different come in one order only, whatever the
order in which they were written. -/

namespace VDiagnostics

/-- Code point order is the order of lists of characters. -/
theorem Text.precedes_iff {first second : Text} : precedes first second ↔ first ≤ second := by
  have smaller : (fun c d : Char => decide (c.toNat < d.toNat) = true) = (· < ·) := by
    funext c d
    rw [decide_eq_true_eq, Char.lt_def, UInt32.lt_iff_toNat_lt]
    rfl
  have lexical : second.lex first (fun c d => c.toNat < d.toNat) ↔ second < first := by
    rw [List.lex_eq_true_iff_lex, smaller]
    rfl
  rw [precedes, Bool.not_eq_true', ← Bool.not_eq_true, lexical, not_lt]

namespace Keyed

variable {α : Type} {entries others : Keyed α}

theorem sorted_perm (entries : Keyed α) : (sorted entries).Perm entries :=
  List.mergeSort_perm entries _

private theorem nodup_keys_perm (same : others.Perm entries) : (keys others).Nodup ↔ (keys entries).Nodup :=
  (same.map Prod.fst).nodup_iff

private theorem pairwise_keys_sorted (entries : Keyed α) : (keys (sorted entries)).Pairwise (· ≤ ·) := by
  have ordered : (sorted entries).Pairwise fun first second => Text.precedes first.1 second.1 := by
    apply List.pairwise_mergeSort
    · intro first second third before behind
      rw [Text.precedes_iff] at before behind ⊢
      exact le_trans before behind
    · intro first second
      rw [Bool.or_eq_true, Text.precedes_iff, Text.precedes_iff]
      exact le_total first.1 second.1
  exact List.pairwise_map.mpr (ordered.imp fun before => Text.precedes_iff.mp before)

theorem ascending_keys_sorted (distinct : (keys entries).Nodup) : (keys (sorted entries)).Pairwise (· < ·) := by
  have apart : (keys (sorted entries)).Nodup := (nodup_keys_perm (sorted_perm entries)).mpr distinct
  exact (pairwise_keys_sorted entries).imp₂ (fun _ _ => lt_of_le_of_ne) apart

/-- Entries whose keys ascend are in the only order that they can be in. -/
theorem eq_of_ascending (first : (keys entries).Pairwise (· < ·)) (second : (keys others).Pairwise (· < ·))
    (same : entries.Perm others) : entries = others := by
  apply List.Perm.eq_of_pairwise _ (List.pairwise_map.mp first) (List.pairwise_map.mp second) same
  intro one other _ _ before behind
  exact absurd before (not_lt_of_gt behind)

theorem sorted_eq_of_perm (distinct : (keys entries).Nodup) (same : others.Perm entries) :
    sorted others = sorted entries := by
  apply eq_of_ascending
  · exact ascending_keys_sorted ((nodup_keys_perm same).mpr distinct)
  · exact ascending_keys_sorted distinct
  · exact (sorted_perm others).trans (same.trans (sorted_perm entries).symm)

end Keyed

end VDiagnostics
