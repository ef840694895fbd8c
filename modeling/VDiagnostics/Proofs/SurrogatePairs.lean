import VDiagnostics.Text.CodePoint

/-! Surrogate pairs. Joining leaves no two halves of a pair next to each other and changes nothing where there are
none, and it does not matter to it whether a character was taken apart before. -/

namespace VDiagnostics

namespace CodePoint

/-- The halves of a character beyond 16 bits, or a code point by itself. -/
def halves : CodePoint → CodePoints
  | char c =>
    if c.toNat < 0x10000 then [char c]
    else [ofUnit (0xd800 + (c.toNat - 0x10000) / 0x400), ofUnit (0xdc00 + (c.toNat - 0x10000) % 0x400)]
  | half => [half]

theorem halves_high (offset : Fin 0x400) : halves (high offset) = [high offset] := rfl

theorem halves_low (offset : Fin 0x400) : halves (low offset) = [low offset] := rfl

theorem toNat_bounds (c : Char) : c.toNat < 0xd800 ∨ 0xdfff < c.toNat ∧ c.toNat < 0x110000 :=
  c.valid

theorem ofUnit_high (offset : Fin 0x400) : ofUnit (0xd800 + offset) = high offset := by
  rw [ofUnit, if_pos (by simp; omega), Nat.add_sub_cancel_left, Fin.ofNat_val_eq_self]

theorem ofUnit_low (offset : Fin 0x400) : ofUnit (0xdc00 + offset) = low offset := by
  rw [ofUnit, if_neg (by simp; omega), if_pos (by simp; omega), Nat.add_sub_cancel_left, Fin.ofNat_val_eq_self]

private theorem toNat_paired (high low : Fin 0x400) : (paired high low).toNat = 0x10000 + high * 0x400 + low := by
  have valid : (0x10000 + high.val * 0x400 + low.val).isValidChar := .inr (by omega)
  rw [paired, Char.ofNat, dif_pos valid]
  rfl

private theorem exists_paired {c : Char} (large : ¬ c.toNat < 0x10000) : ∃ high low, paired high low = c := by
  have bound := toNat_bounds c
  have whole : 0x10000 + (c.toNat - 0x10000) / 0x400 * 0x400 + (c.toNat - 0x10000) % 0x400 = c.toNat := by omega
  refine ⟨⟨(c.toNat - 0x10000) / 0x400, by omega⟩, ⟨(c.toNat - 0x10000) % 0x400, by omega⟩, ?_⟩
  rw [paired, whole, Char.ofNat_toNat]

private theorem halves_paired (high low : Fin 0x400) : halves (char (paired high low)) = [.high high, .low low] := by
  have first : (0x10000 + high.val * 0x400 + low.val - 0x10000) / 0x400 = high := by omega
  have second : (0x10000 + high.val * 0x400 + low.val - 0x10000) % 0x400 = low := by omega
  rw [halves, toNat_paired, if_neg (by omega), first, second, ofUnit_high, ofUnit_low]

end CodePoint

namespace CodePoints

open CodePoint

/-- No first half of a pair stands right before a second half. -/
def IsJoined : CodePoints → Prop
  | .high _ :: .low _ :: _ => False
  | _ :: rest => IsJoined rest
  | [] => True

theorem join_of_isJoined {points : CodePoints} (joined : IsJoined points) : points.join = points := by
  fun_induction join points with
  | case1 high low rest => exact joined.elim
  | case2 point rest apart ih =>
    rw [IsJoined.eq_2 _ _ apart] at joined
    rw [ih joined]
  | case3 => rfl

private theorem exists_low_of_join {points later : CodePoints} {low : Fin 0x400}
    (begins : points.join = .low low :: later) :
    ∃ rest, points = .low low :: rest := by
  fun_cases join points with
  | case1 high low rest => simp [join] at begins
  | case2 point rest apart =>
    rw [join.eq_2 _ _ apart] at begins
    obtain ⟨rfl, -⟩ := List.cons.inj begins
    exact ⟨rest, rfl⟩
  | case3 => cases begins

private theorem isJoined_join (points : CodePoints) : IsJoined points.join := by
  fun_induction join points with
  | case1 high low rest ih => exact ih
  | case2 point rest apart ih =>
    refine (IsJoined.eq_2 _ _ fun high low later first begins => ?_).mpr ih
    obtain ⟨behind, follows⟩ := exists_low_of_join begins
    exact apart high low behind first follows
  | case3 => trivial

private theorem exists_low_of_halves {points later : CodePoints} {low : Fin 0x400}
    (begins : points.flatMap halves = .low low :: later) : ∃ rest, points = .low low :: rest := by
  cases points with
  | nil => cases begins
  | cons point rest =>
    cases point with
    | char c =>
      by_cases small : c.toNat < 0x10000
      · simp [halves, small] at begins
      · obtain ⟨high, low, rfl⟩ := exists_paired small
        simp [halves_paired] at begins
    | high offset => simp [halves_high] at begins
    | low offset =>
      simp only [List.flatMap_cons, halves_low, List.singleton_append, List.cons.injEq, CodePoint.low.injEq] at begins
      exact ⟨rest, by rw [begins.1]⟩

/-- It does not matter whether characters were taken apart before. -/
theorem join_flatMap_halves (points : CodePoints) : join (points.flatMap halves) = points.join := by
  fun_induction join points with
  | case1 high low rest ih => simp [halves, join, ih]
  | case2 point rest apart ih =>
    cases point with
    | char c =>
      by_cases small : c.toNat < 0x10000
      · rw [List.flatMap_cons, halves, if_pos small, List.singleton_append, join.eq_2 _ _ (by simp), ih]
      · obtain ⟨high, low, rfl⟩ := exists_paired small
        rw [List.flatMap_cons, halves_paired, List.cons_append, List.singleton_append, join, ih]
    | low offset => rw [List.flatMap_cons, halves_low, List.singleton_append, join.eq_2 _ _ (by simp), ih]
    | high offset =>
      have further : ∀ high low later, CodePoint.high offset = .high high →
          rest.flatMap halves = .low low :: later → False := by
        intro high low later first begins
        obtain ⟨behind, follows⟩ := exists_low_of_halves begins
        exact apart high low behind first follows
      rw [List.flatMap_cons, halves_high, List.singleton_append, join.eq_2 _ _ further, ih]
  | case3 => rfl

private theorem flatMap_halves_join (points : CodePoints) : points.join.flatMap halves = points.flatMap halves := by
  fun_induction join points with
  | case1 high low rest ih =>
    rw [List.flatMap_cons, halves_paired, ih]
    rfl
  | case2 point rest apart ih => rw [List.flatMap_cons, List.flatMap_cons, ih]
  | case3 => rfl

/-- The same halves, as far as possible in characters. -/
structure Joins (points joined : CodePoints) : Prop where
  isJoined : IsJoined joined
  halves : joined.flatMap CodePoint.halves = points.flatMap CodePoint.halves

theorem joins_iff {points joined : CodePoints} : Joins points joined ↔ points.join = joined := by
  constructor
  · rintro ⟨isJoined, halves⟩
    rw [← join_flatMap_halves, ← halves, join_flatMap_halves, join_of_isJoined isJoined]
  · rintro rfl
    exact ⟨isJoined_join points, flatMap_halves_join points⟩

end CodePoints

end VDiagnostics
