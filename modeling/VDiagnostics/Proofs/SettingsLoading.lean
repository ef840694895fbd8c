import VDiagnostics.Proofs.JsonReading
import VDiagnostics.Settings.Basic

/-! What loading makes of the place of the settings. An object lies over the defaults and anything else leaves
them alone, unless the contents are no encoded text or the reader breaks off: these two end the loading. -/

namespace VDiagnostics

namespace Settings

open Json

/-- The contents are an object with these members, in which a key may come again, and there is room for it. -/
inductive Writes (room : Nat) : Stored → List (CodePoints × Tree) → Prop where
  | object {contents members} (lexes : Lexes contents (Tree.object members).tokens [])
      (low : (Tree.object members).height ≤ room) : Writes room (.text contents) members

/-- Malformed contents are passed over, but a limit that is exceeded ends the loading. -/
def refusalFault? : Refusal → Option Fault
  | .malformed => none
  | .numeralTooLong digits => some (.numeralTooLong digits)
  | .listTooDeep => some .listTooDeep
  | .objectTooDeep => some .objectTooDeep

/-- What is neither read nor passed over. -/
inductive Breaks (room : Nat) : Stored → Fault → Prop where
  | encoding : Breaks room .undecodable .undecodableSettings
  | limit {contents refusal fault} (off : BreaksOff room contents refusal)
      (ends : refusalFault? refusal = some fault) : Breaks room (.text contents) fault

/-- The defaults come first and then the other keys as they first occur. A key has the last value that the
members give it, or else its default. -/
structure LiesOver (settings : Settings) (members : List (CodePoints × Tree)) : Prop where
  keys : Keyed.keys settings = (Keyed.keys defaults ++ members.map Prod.fst).eraseDups
  find? : ∀ key, Keyed.find? key settings =
    (Keyed.find? key (Tree.memberValues members).reverse).or (Keyed.find? key defaults)

variable {room : Nat}

theorem keys_defaults_nodup : (Keyed.keys defaults).Nodup := by
  decide

private theorem liesOver_merge (members : List (CodePoints × Tree)) :
    LiesOver (Keyed.merge defaults (Keyed.merge [] (Tree.memberValues members))) members := by
  constructor
  · have named : Keyed.keys (Tree.memberValues members) = members.map Prod.fst := by
      simp [Tree.memberValues_eq_map, Keyed.keys, Function.comp_def]
    rw [Keyed.keys_merge keys_defaults_nodup, Keyed.keys_merge Keyed.nodup_keys_nil, Keyed.keys_nil, List.nil_append,
      Keyed.eraseDups_append_eraseDups, named]
  · intro key
    rw [Keyed.find?_merge, Keyed.find?_reverse (Keyed.nodup_keys_merge Keyed.nodup_keys_nil _), Keyed.find?_merge]
    simp [Keyed.find?]

private theorem read_eq_object {contents : Text} {entries : List (CodePoints × Value)} :
    read room contents = .ok (.object entries) ↔
      ∃ members, Writes room (.text contents) members ∧ Keyed.merge [] (Tree.memberValues members) = entries := by
  constructor
  · intro taken
    obtain ⟨tree, lexes, low, value⟩ := read_eq_ok.mp taken
    cases tree with
    | object members => exact ⟨members, .object lexes low, Value.object.inj value⟩
    | scalar atom =>
      have plain : IsAtom atom := lexes.isPlain (.scalar atom) (List.mem_singleton.mpr rfl)
      rw [show atom = .object entries from value] at plain
      exact plain.elim
    | text | list => cases value
  · rintro ⟨members, ⟨lexes, low⟩, rfl⟩
    exact read_eq_ok.mpr ⟨.object members, lexes, low, rfl⟩

theorem load_refused {contents : Text} {refusal : Refusal} (refused : read room contents = .error refusal) :
    (load room (.text contents)).result = (refusalFault? refusal).elim (.ok defaults) .error := by
  cases refusal <;> simp [load, refused, refusalFault?, Traced.note, Traced.fail]

private theorem load_eq_error {stored : Stored} {fault : Fault} :
    (load room stored).result = .error fault ↔ Breaks room stored fault := by
  have proper : ∀ {refusal}, refusalFault? refusal = some fault → refusal ≠ .malformed := by
    rintro refusal ends rfl
    cases ends
  constructor
  · intro ended
    cases stored with
    | absent | folder => cases ended
    | undecodable => cases ended; exact .encoding
    | text contents =>
      cases taken : read room contents with
      | ok value => cases value <;> simp [load, taken, Traced.note, Traced.answer] at ended
      | error refusal =>
        rw [load_refused taken] at ended
        cases ends : refusalFault? refusal with
        | none => rw [ends] at ended; cases ended
        | some cause =>
          rw [ends] at ended
          cases ended
          exact .limit ((read_eq_error (proper ends)).mp taken) ends
  · intro breaks
    cases breaks with
    | encoding => rfl
    | limit off ends =>
      rw [load_refused ((read_eq_error (proper ends)).mpr off), ends]
      rfl

private theorem breaks_ofBytes (bytes : ByteArray) :
    Breaks room (.ofBytes bytes) .undecodableSettings ↔ ¬ bytes.IsValidUTF8 := by
  unfold Stored.ofBytes String.fromUTF8?
  by_cases valid : bytes.IsValidUTF8
  · rw [dif_pos valid]
    constructor
    · intro breaks
      cases breaks with
      | @limit _ refusal _ _ ends => cases refusal <;> cases ends
    · exact fun invalid => absurd valid invalid
  · rw [dif_neg valid]
    exact ⟨fun _ => valid, fun _ => .encoding⟩

/-- Loading fails just where the contents are no encoded text or exceed a limit before anything is malformed.
Otherwise an object lies over the defaults, and whatever else is in the place leaves just the defaults. -/
theorem load_outcome (room : Nat) (stored : Stored) :
    (∀ fault, (load room stored).result = .error fault ↔ Breaks room stored fault) ∧
      (∀ bytes : ByteArray, Breaks room (.ofBytes bytes) .undecodableSettings ↔ ¬ bytes.IsValidUTF8) ∧
      (∀ members, Writes room stored members →
        ∃ settings, (load room stored).result = .ok settings ∧ LiesOver settings members) ∧
      ((∀ fault, ¬ Breaks room stored fault) → (∀ members, ¬ Writes room stored members) →
        (load room stored).result = .ok defaults) := by
  refine ⟨fun fault => load_eq_error, breaks_ofBytes, ?_, ?_⟩
  · rintro members ⟨lexes, low⟩
    have taken := read_eq_object.mpr ⟨members, .object lexes low, rfl⟩
    exact ⟨_, by rw [load, taken]; rfl, liesOver_merge members⟩
  · intro whole other
    cases stored with
    | absent | folder => rfl
    | undecodable => exact absurd .encoding (whole _)
    | text contents =>
      cases taken : read room contents with
      | ok value =>
        cases value with
        | object entries =>
          obtain ⟨members, writes, -⟩ := read_eq_object.mp taken
          exact absurd writes (other members)
        | _ => rw [load, taken]; rfl
      | error refusal =>
        cases ended : (load room (.text contents)).result with
        | error fault => exact absurd (load_eq_error.mp ended) (whole fault)
        | ok settings =>
          rw [load_refused taken] at ended
          cases ends : refusalFault? refusal with
          | none => rw [ends] at ended; exact ended.symm
          | some cause => rw [ends] at ended; cases ended

/-- A key of the defaults, a new key that comes twice, and two keys that are halves of pairs. -/
theorem load_outcome_repeated :
    let x : CodePoints := .ofText ['x']
    let members : List (CodePoints × Tree) :=
      [(x, .scalar (.int 1)), (flagsKey, .list [.scalar .null]), ([.high 0], .scalar (.int 3)),
        ([.high 0x3ff], .scalar (.int 4)), (x, .scalar (.int 2))]
    let written :=
      "\x7b\"x\":1, \"flags\":[null], \"\\ud800\":3, \"\\udbff\":4, \"x\":2\x7d".toList
    ∃ settings, (load 2 (.text written)).result = .ok settings ∧ LiesOver settings members := by
  intro x members written
  exact (load_outcome 2 _).2.2.1 members
    (.object ((lexes_iff (Tree.isProper_tokens (.object members))).mpr rfl) (by decide))

/-- A byte that begins no character ends the loading, although damaged contents should leave the defaults. -/
theorem undecodable_contents_end_loading :
    (load 1 (.ofBytes ⟨#[0xff]⟩)).result = .error .undecodableSettings :=
  load_eq_error.mpr ((breaks_ofBytes _).mpr (by decide))

end Settings

end VDiagnostics
