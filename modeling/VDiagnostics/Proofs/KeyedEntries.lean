import VDiagnostics.Keyed
import Mathlib.Data.List.Induction

/-! What writing, removing and merging do to the keys of a keyed list and to what is found under them. A
merge gives each key its last value and keeps the place at which the key first came. -/

namespace VDiagnostics

namespace Keyed

variable {κ α : Type}

@[simp] theorem keys_nil : keys ([] : List (κ × α)) = [] := rfl

theorem nodup_keys_nil : (keys ([] : List (κ × α))).Nodup := List.nodup_nil

@[simp] theorem keys_cons (entry : κ × α) (rest : List (κ × α)) : keys (entry :: rest) = entry.1 :: keys rest := rfl

private theorem keys_concat (front : List (κ × α)) (last : κ × α) : keys (front ++ [last]) = keys front ++ [last.1] :=
  List.map_append

/-! Keys by their first occurrence. -/

section

variable [BEq κ] [LawfulBEq κ]

theorem eraseDups_concat (front : List κ) (last : κ) :
    (front ++ [last]).eraseDups = if last ∈ front then front.eraseDups else front.eraseDups ++ [last] := by
  rw [List.eraseDups_append]
  by_cases known : last ∈ front <;> simp [List.removeAll, known, List.eraseDups_cons]

theorem nodup_eraseDups (keys : List κ) : keys.eraseDups.Nodup := by
  induction keys using List.reverseRecOn with
  | nil => exact List.nodup_nil
  | append_singleton front last ih =>
    rw [eraseDups_concat]
    split
    · exact ih
    next fresh =>
      refine List.nodup_append.mpr ⟨ih, by simp, ?_⟩
      simp only [List.mem_eraseDups, List.mem_singleton]
      rintro key member other rfl same
      exact fresh (same ▸ member)

private theorem eraseDups_of_nodup {keys : List κ} (distinct : keys.Nodup) : keys.eraseDups = keys := by
  induction keys using List.reverseRecOn with
  | nil => rfl
  | append_singleton front last ih =>
    obtain ⟨before, -, apart⟩ := List.nodup_append.mp distinct
    have fresh : last ∉ front := fun member => apart last member last (List.mem_singleton.mpr rfl) rfl
    rw [eraseDups_concat, if_neg fresh, ih before]

theorem eraseDups_append_eraseDups (front back : List κ) :
    (front ++ back.eraseDups).eraseDups = (front ++ back).eraseDups := by
  induction back using List.reverseRecOn with
  | nil => rfl
  | append_singleton back last ih =>
    rw [eraseDups_concat, ← List.append_assoc, eraseDups_concat]
    by_cases known : last ∈ back
    · simp [known, ih]
    · simp [known, ih, ← List.append_assoc, eraseDups_concat]

end

variable [DecidableEq κ]

theorem mem_of_find? {key : κ} {value : α} {entries : List (κ × α)} (found : find? key entries = some value) :
    (key, value) ∈ entries := by
  induction entries with
  | nil => cases found
  | cons entry rest ih =>
    obtain ⟨present, held⟩ := entry
    by_cases same : present = key
    · simp only [find?, same, if_true, Option.some.injEq] at found
      simp [same, found]
    · simp only [find?, same, if_false] at found
      exact List.mem_cons_of_mem _ (ih found)

theorem isSome_find? {key : κ} {entries : List (κ × α)} : (find? key entries).isSome ↔ key ∈ keys entries := by
  induction entries with
  | nil => simp [find?, keys]
  | cons entry rest ih =>
    obtain ⟨present, held⟩ := entry
    by_cases same : present = key
    · simp [find?, same]
    · simp [find?, same, Ne.symm same, ih]

theorem find?_eq_none {key : κ} {entries : List (κ × α)} : find? key entries = none ↔ key ∉ keys entries := by
  rw [← isSome_find?, Option.not_isSome_iff_eq_none]

theorem keys_put [BEq κ] [LawfulBEq κ] (key : κ) (value : α) (entries : List (κ × α)) :
    keys (put key value entries) = if key ∈ keys entries then keys entries else keys entries ++ [key] := by
  induction entries with
  | nil => rfl
  | cons entry rest ih =>
    obtain ⟨present, held⟩ := entry
    by_cases same : present = key
    · simp [put, same]
    · simp only [put, same, if_false, keys_cons, ih, List.mem_cons, Ne.symm same, false_or]
      split <;> rfl

theorem mem_put {key : κ} {value : α} {entries : List (κ × α)} {entry : κ × α}
    (member : entry ∈ put key value entries) : entry = (key, value) ∨ entry ∈ entries := by
  induction entries with
  | nil => exact .inl (List.mem_singleton.mp member)
  | cons first rest ih =>
    obtain ⟨present, held⟩ := first
    by_cases same : present = key
    · rw [put, if_pos same, List.mem_cons] at member
      rcases member with rfl | member
      · exact .inl (by rw [same])
      · exact .inr (List.mem_cons_of_mem _ member)
    · rw [put, if_neg same, List.mem_cons] at member
      rcases member with rfl | member
      · exact .inr List.mem_cons_self
      · exact (ih member).imp_right (List.mem_cons_of_mem _)

theorem keys_remove (key : κ) (entries : List (κ × α)) :
    keys (remove key entries) = (keys entries).filter (· ≠ key) := by
  rw [remove, keys, keys, List.filter_map]
  rfl

theorem find?_remove (key other : κ) (entries : List (κ × α)) :
    find? other (remove key entries) = if other = key then none else find? other entries := by
  induction entries with
  | nil => simp [remove, find?]
  | cons entry rest ih =>
    obtain ⟨present, held⟩ := entry
    simp only [remove] at ih
    by_cases gone : present = key
    · simp only [remove, gone, ne_eq, not_true_eq_false, decide_false, Bool.false_eq_true, not_false_eq_true,
        List.filter_cons_of_neg, ih, find?]
      by_cases same : other = key
      · simp [same]
      · simp [same, Ne.symm same]
    · simp only [remove, gone, ne_eq, not_false_eq_true, decide_true, List.filter_cons_of_pos, find?, ih]
      by_cases same : present = other
      · simp [← same, gone]
      · simp [same]

theorem find?_table [BEq κ] [LawfulBEq κ] (key : κ) (value : κ → α) (keys : List κ) :
    find? key (keys.map fun other => (other, value other)) =
      if key ∈ keys then some (value key) else none := by
  induction keys with
  | nil => simp [find?]
  | cons first rest ih =>
    by_cases same : first = key
    · subst same
      simp [find?]
    · have other : key ≠ first := fun equal => same equal.symm
      simp [find?, same, other, ih]

theorem put_table_present {key : κ} {value : κ → α} {keys : List κ} (distinct : keys.Nodup)
    (present : key ∈ keys) (written : α) :
    put key written (keys.map fun other => (other, value other)) =
      keys.map fun other => (other, if other = key then written else value other) := by
  induction keys with
  | nil => simp at present
  | cons first rest ih =>
    obtain ⟨fresh, distinct⟩ := List.nodup_cons.mp distinct
    by_cases same : first = key
    · subst same
      have untouched : ∀ other ∈ rest, other ≠ first := fun other member equal => fresh (equal ▸ member)
      simp +contextual [put, untouched]
    · have later : key ∈ rest := by simpa [Ne.symm same] using present
      simp [put, same, ih distinct later]

theorem put_absent {key : κ} {entries : List (κ × α)} (absent : key ∉ keys entries) (written : α) :
    put key written entries = entries ++ [(key, written)] := by
  induction entries with
  | nil => rfl
  | cons entry rest ih =>
    obtain ⟨present, old⟩ := entry
    rw [keys_cons, List.mem_cons, not_or] at absent
    simp [put, Ne.symm absent.1, ih absent.2]

/-! What a merge makes of two lists of entries. -/

private theorem merge_concat (earlier front : List (κ × α)) (last : κ × α) :
    merge earlier (front ++ [last]) = put last.1 last.2 (merge earlier front) :=
  List.foldl_append

theorem keys_merge [BEq κ] [LawfulBEq κ] {earlier : List (κ × α)} (distinct : (keys earlier).Nodup)
    (later : List (κ × α)) :
    keys (merge earlier later) = (keys earlier ++ keys later).eraseDups := by
  induction later using List.reverseRecOn with
  | nil => rw [keys_nil, List.append_nil, eraseDups_of_nodup distinct]; rfl
  | append_singleton front last ih =>
    simp only [merge_concat, keys_put, ih, keys_concat, ← List.append_assoc, eraseDups_concat, List.mem_eraseDups]

theorem keys_prefix_merge (earlier later : List (κ × α)) : keys earlier <+: keys (merge earlier later) := by
  induction later generalizing earlier with
  | nil => exact List.prefix_rfl
  | cons first rest ih =>
    have put : keys earlier <+: keys (put first.1 first.2 earlier) := by
      rw [keys_put]
      split
      · exact List.prefix_rfl
      · exact List.prefix_append _ _
    exact put.trans (ih _)

theorem nodup_keys_merge {earlier : List (κ × α)} (distinct : (keys earlier).Nodup) (later : List (κ × α)) :
    (keys (merge earlier later)).Nodup := by
  rw [keys_merge distinct]
  exact nodup_eraseDups _

theorem find?_merge (key : κ) (earlier later : List (κ × α)) :
    find? key (merge earlier later) = (find? key later.reverse).or (find? key earlier) := by
  induction later using List.reverseRecOn with
  | nil => rfl
  | append_singleton front last ih =>
    obtain ⟨written, value⟩ := last
    rw [merge_concat, find?_put, ih, List.reverse_concat, find?]
    by_cases same : key = written
    · simp [same]
    · simp [same, Ne.symm same]

theorem mem_merge {earlier later : List (κ × α)} {entry : κ × α} (member : entry ∈ merge earlier later) :
    entry ∈ earlier ∨ entry ∈ later := by
  induction later generalizing earlier with
  | nil => exact .inl member
  | cons first rest ih =>
    rcases ih member with put | later
    · rcases mem_put put with rfl | before
      · exact .inr List.mem_cons_self
      · exact .inl before
    · exact .inr (List.mem_cons_of_mem _ later)

/-- Entries with distinct keys are merged as they are. -/
theorem merge_nil {entries : List (κ × α)} (distinct : (keys entries).Nodup) : merge [] entries = entries := by
  induction entries using List.reverseRecOn with
  | nil => rfl
  | append_singleton front last ih =>
    obtain ⟨before, -, apart⟩ := List.nodup_append.mp (keys_concat front last ▸ distinct)
    have fresh : last.1 ∉ keys front := fun member => apart last.1 member last.1 (List.mem_singleton.mpr rfl) rfl
    rw [merge_concat, ih before, put_absent fresh]

theorem find?_reverse {entries : List (κ × α)} (distinct : (keys entries).Nodup) (key : κ) :
    find? key entries.reverse = find? key entries := by
  have merged := find?_merge key [] entries
  rw [merge_nil distinct] at merged
  simpa [find?] using merged.symm

end Keyed

end VDiagnostics
