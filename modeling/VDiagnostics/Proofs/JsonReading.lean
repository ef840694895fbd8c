import VDiagnostics.Proofs.JsonLexing
import VDiagnostics.Proofs.JsonTrees
import Mathlib.Data.List.Induction

/-! What the reader accepts and what it refuses. The tokens that it has read at any time spell its state: either a
place in a tree where a value is next, or a tree at such a place, or something in between. So a value is read only
from texts that write a tree, and a refusal for a long numeral or too great a depth names the place where a value
would be next. -/

namespace VDiagnostics

namespace Json

open State
open Json.Tree (AwaitsKey precedingItems precedingMembers)

variable {room : Nat}

/-- The lists and objects that are open, the innermost first. -/
abbrev Place := List Enclosure

namespace Place

def leading : Place → List Token
  | [] => []
  | enclosure :: outer => leading outer ++ enclosure.opening

def frames (place : Place) : List Frame :=
  place.map Enclosure.frame

def Fits (room : Nat) : Place → Prop
  | [] => True
  | enclosure :: outer => enclosure.Fits room outer.length ∧ Fits room outer

theorem Fits.length_le {place : Place} (fits : place.Fits room) : place.length ≤ room := by
  cases place with
  | nil => exact Nat.zero_le _
  | cons enclosure outer => exact fits.1.1

private theorem length_frames (place : Place) : place.frames.length = place.length :=
  List.length_map _

/-- A place is reached by its leading tokens. -/
theorem run_leading {place : Place} (fits : place.Fits room) {token : Token} (other : token ≠ .closeList)
    (rest : List Token) :
    run room start (place.leading ++ token :: rest) = run room ⟨place.frames, .value⟩ (token :: rest) := by
  induction place generalizing token rest with
  | nil => rfl
  | cons enclosure outer ih =>
    have begins : ∃ first tokens, enclosure.opening = first :: tokens ∧ first ≠ .closeList := by
      cases enclosure <;> simp [Enclosure.opening]
    obtain ⟨first, tokens, spelled, opens⟩ := begins
    have within : enclosure.Fits room (frames outer).length := by rw [length_frames]; exact fits.1
    calc run room start (leading (enclosure :: outer) ++ token :: rest)
        = run room start (leading outer ++ first :: (tokens ++ token :: rest)) := by simp [leading, spelled]
      _ = run room ⟨frames outer, .value⟩ (enclosure.opening ++ token :: rest) := by
          rw [ih fits.2 opens, spelled, List.cons_append]
      _ = run room ⟨frames (enclosure :: outer), .value⟩ (token :: rest) :=
          Enclosure.run_opening (fun tree _ => tree.isRead) _ within other rest

end Place

open Place

/-- What the reader has taken when it is in a state. -/
inductive Spells (room : Nat) : List Token → State → Prop where
  | value {place} (fits : Fits room place) : Spells room (leading place) ⟨frames place, .value⟩
  | opened {place} (fits : Fits room (.list [] :: place)) :
      Spells room (leading (.list [] :: place)) ⟨frames (.list [] :: place), .valueOrEnd⟩
  | members {place before held phase} (fits : Fits room (.object before held :: place)) (awaits : AwaitsKey phase)
      (first : phase = .keyOrEnd → before = []) :
      Spells room (leading place ++ .openObject :: precedingMembers before)
        ⟨frames (.object before held :: place), phase⟩
  | key {place before key} (fits : Fits room (.object before key :: place)) :
      Spells room (leading place ++ (.openObject :: precedingMembers before ++ [.text key]))
        ⟨frames (.object before key :: place), .colon⟩
  | complete {place} (tree : Tree) (fits : Fits room place) (low : place.length + tree.height ≤ room) :
      Spells room (leading place ++ tree.tokens) (deliver tree.value (frames place))

/-- Why a token that begins a value is refused at a depth although it is not malformed. -/
inductive Exceeds (room depth : Nat) : Token → Refusal → Prop where
  | numeral (digits : Nat) : Exceeds room depth (.longInteger digits) (.numeralTooLong digits)
  | list (full : room ≤ depth) : Exceeds room depth .openList .listTooDeep
  | object (full : room ≤ depth) : Exceeds room depth .openObject .objectTooDeep

/-- Some token exceeds a limit where a value is next. What follows it does not matter. -/
def Overruns (room : Nat) (tokens : List Token) (refusal : Refusal) : Prop :=
  ∃ place token rest,
    tokens = leading place ++ token :: rest ∧ Fits room place ∧ Exceeds room place.length token refusal

/-- How far the reader has come with some tokens. -/
def Reading (room : Nat) (tokens : List Token) : Except Refusal State → Prop
  | .ok state => Spells room tokens state
  | .error refusal => refusal = .malformed ∨ Overruns room tokens refusal

private theorem reading_beginValue {place : Place} (fits : Fits room place) (token : Token) :
    Reading room (leading place ++ [token]) (beginValue room (frames place) token) := by
  cases token with
  | scalar value => exact .complete (.scalar value) fits fits.length_le
  | text value => exact .complete (.text value) fits fits.length_le
  | longInteger digits => exact .inr ⟨place, _, [], rfl, fits, .numeral digits⟩
  | openList =>
    rw [beginValue, length_frames]
    split
    next below => exact .opened ⟨⟨below, List.forall_mem_nil _⟩, fits⟩
    next full => exact .inr ⟨place, _, [], rfl, fits, .list (Nat.not_lt.mp full)⟩
  | openObject =>
    rw [beginValue, length_frames]
    split
    next below =>
      exact @Spells.members room place [] [] _ ⟨⟨below, List.forall_mem_nil _⟩, fits⟩ (.inr rfl) fun _ => rfl
    next full => exact .inr ⟨place, _, [], rfl, fits, .object (Nat.not_lt.mp full)⟩
  | closeList | closeObject | comma | colon | malformed => exact .inl rfl

/-- After a tree that stands in a list or object comes the next one, or the end. -/
theorem reading_afterValue {enclosure : Enclosure} {outer : Place} (fits : Fits room (enclosure :: outer)) {tree : Tree}
    (low : outer.length + 1 + tree.height ≤ room) (token : Token) :
    Reading room (leading (enclosure :: outer) ++ tree.tokens ++ [token])
      (step room (deliver tree.value (frames (enclosure :: outer))) token) := by
  have whole : outer.length + (enclosure.close tree).height ≤ room :=
    Enclosure.height_close_le.mpr ⟨fits.1, low⟩
  have ended : leading (enclosure :: outer) ++ tree.tokens ++ [enclosure.closing] =
      leading outer ++ (enclosure.close tree).tokens := by
    rw [Enclosure.tokens_close]
    simp [leading]
  by_cases ends : token = enclosure.closing
  · rw [ends, Place.frames, List.map_cons, step_closing, ended]
    exact .complete _ fits.2 whole
  cases enclosure with
  | list before =>
    cases token with
    | comma =>
      have further : Fits room (.list (before ++ [tree]) :: outer) :=
        ⟨⟨fits.1.1, List.forall_mem_append.mpr ⟨fits.1.2, List.forall_mem_singleton.mpr low⟩⟩, fits.2⟩
      have spelled : leading (.list before :: outer) ++ tree.tokens ++ [.comma] =
          leading (.list (before ++ [tree]) :: outer) := by
        simp [leading, Enclosure.opening, precedingItems]
      have moves : step room (deliver tree.value (frames (.list before :: outer))) .comma =
          .ok ⟨frames (.list (before ++ [tree]) :: outer), .value⟩ := by
        simp [Place.frames, Enclosure.frame, deliver, State.step]
      rw [spelled, moves]
      exact .value further
    | closeList => exact absurd rfl ends
    | _ => exact .inl rfl
  | object before key =>
    cases token with
    | comma =>
      have further : Fits room (.object (before ++ [(key, tree)]) key :: outer) := by
        refine ⟨⟨fits.1.1, ?_⟩, fits.2⟩
        rw [Enclosure.trees, List.map_append]
        exact List.forall_mem_append.mpr ⟨fits.1.2, List.forall_mem_singleton.mpr low⟩
      have spelled : leading (.object before key :: outer) ++ tree.tokens ++ [.comma] =
          leading outer ++ .openObject :: precedingMembers (before ++ [(key, tree)]) := by
        simp [leading, Enclosure.opening, precedingMembers]
      have moves : step room (deliver tree.value (frames (.object before key :: outer))) .comma =
          .ok ⟨frames (.object (before ++ [(key, tree)]) key :: outer), .key⟩ := by
        simp [Place.frames, Enclosure.frame, Tree.memberValues_eq_map, Keyed.merge, deliver, State.step]
      rw [spelled, moves]
      exact .members further (.inl rfl) fun first => by cases first
    | closeObject => exact absurd rfl ends
    | _ => exact .inl rfl

theorem Spells.step {tokens : List Token} {state : State} (spells : Spells room tokens state) (token : Token) :
    Reading room (tokens ++ [token]) (step room state token) := by
  cases spells with
  | value fits => exact reading_beginValue fits token
  | @opened place fits =>
    by_cases ends : token = .closeList
    · have spelled : leading (.list [] :: place) ++ [.closeList] = leading place ++ (Tree.list []).tokens := by
        simp [leading, Enclosure.opening, precedingItems, Tree.tokens, Tree.itemTokens]
      rw [ends, spelled]
      exact complete (.list []) fits.2 fits.1.1
    · rw [step_valueOrEnd _ ends]
      exact reading_beginValue fits token
  | @members place before held phase fits awaits first =>
    cases token with
    | text name =>
      have moves : State.step room ⟨frames (.object before held :: place), phase⟩ (.text name) =
          .ok ⟨frames (.object before name :: place), .colon⟩ := by
        rcases awaits with rfl | rfl <;> rfl
      rw [moves, List.append_assoc]
      exact @key room place before name fits
    | closeObject =>
      rcases awaits with rfl | rfl
      · exact .inl rfl
      · have spelled : leading place ++ .openObject :: precedingMembers [] ++ [.closeObject] =
            leading place ++ (Tree.object []).tokens := by
          simp [precedingMembers, Tree.tokens, Tree.memberTokens]
        rw [first rfl, spelled]
        exact complete (.object []) fits.2 fits.1.1
    | _ => rcases awaits with rfl | rfl <;> exact .inl rfl
  | @key place before name fits =>
    cases token with
    | colon =>
      have spelled : leading place ++ (.openObject :: precedingMembers before ++ [.text name]) ++ [.colon] =
          leading (.object before name :: place) := by
        simp [leading, Enclosure.opening]
      rw [spelled]
      exact value fits
    | _ => exact .inl rfl
  | @complete place tree fits low =>
    cases place with
    | nil => exact .inl rfl
    | cons enclosure outer => exact reading_afterValue fits low token

theorem Overruns.append {tokens : List Token} {refusal : Refusal} (overruns : Overruns room tokens refusal)
    (later : List Token) : Overruns room (tokens ++ later) refusal := by
  obtain ⟨place, token, rest, rfl, fits, exceeds⟩ := overruns
  exact ⟨place, token, rest ++ later, by simp, fits, exceeds⟩

private theorem reading_run (room : Nat) (tokens : List Token) : Reading room tokens (run room start tokens) := by
  induction tokens using List.reverseRecOn with
  | nil => exact @Spells.value room [] trivial
  | append_singleton before token ih =>
    rw [run_concat]
    cases taken : run room start before with
    | ok state =>
      rw [taken] at ih
      exact ih.step token
    | error refusal =>
      rw [taken] at ih
      exact ih.imp_right fun overruns => overruns.append [token]

private theorem result_eq_error {state : State} {refusal : Refusal} (refused : result state = .error refusal) :
    refusal = .malformed := by
  unfold result at refused
  split at refused
  · cases refused
  · exact (Except.error.inj refused).symm

private theorem readTokens_eq_run (tokens : List Token) :
    readTokens room tokens = (run room start tokens).bind result := rfl

private theorem readTokens_tree {tree : Tree} (low : tree.height ≤ room) :
    readTokens room tree.tokens = .ok tree.value := by
  have taken := tree.isRead [] [] (by simpa using low)
  rw [List.append_nil] at taken
  exact congrArg (·.bind result) taken

/-- A value is read just from the trees that stand for it and are not too high. -/
theorem readTokens_eq_ok {tokens : List Token} {value : Value} :
    readTokens room tokens = .ok value ↔
      ∃ tree : Tree, tokens = tree.tokens ∧ tree.height ≤ room ∧ tree.value = value := by
  constructor
  · intro read
    have reading := reading_run room tokens
    rw [readTokens_eq_run] at read
    cases taken : run room start tokens with
    | error refusal => rw [taken] at read; cases read
    | ok state =>
      rw [taken] at reading read
      cases reading with
      | @complete place tree fits low =>
        cases place with
        | nil => exact ⟨tree, rfl, by simpa using low, Except.ok.inj read⟩
        | cons enclosure outer => cases enclosure <;> cases read
      | @members _ _ _ _ _ awaits => rcases awaits with rfl | rfl <;> cases read
      | _ => cases read
  · rintro ⟨tree, rfl, low, rfl⟩
    exact readTokens_tree low

theorem Exceeds.run {place : Place} {token : Token} {refusal : Refusal}
    (exceeds : Exceeds room place.length token refusal) (rest : List Token) :
    run room ⟨frames place, .value⟩ (token :: rest) = .error refusal := by
  rw [run_cons]
  cases exceeds with
  | numeral digits => rfl
  | list full => simp [State.step, beginValue, length_frames, Nat.not_lt.mpr full]; rfl
  | object full => simp [State.step, beginValue, length_frames, Nat.not_lt.mpr full]; rfl

/-- Apart from malformed tokens, just those are refused that exceed a limit where a value is next. -/
theorem readTokens_eq_error {tokens : List Token} {refusal : Refusal} (proper : refusal ≠ .malformed) :
    readTokens room tokens = .error refusal ↔ Overruns room tokens refusal := by
  constructor
  · intro refused
    have reading := reading_run room tokens
    rw [readTokens_eq_run] at refused
    cases taken : run room start tokens with
    | error cause =>
      rw [taken] at reading refused
      cases refused
      exact reading.resolve_left proper
    | ok state =>
      rw [taken] at refused
      exact absurd (result_eq_error refused) proper
  · rintro ⟨place, token, rest, rfl, fits, exceeds⟩
    have other : token ≠ .closeList := by cases exceeds <;> simp
    rw [readTokens_eq_run, run_leading fits other, exceeds.run]
    rfl

/-! Texts that are read. -/

private theorem isProper_of_step {state next : State} {token : Token} (taken : step room state token = .ok next) :
    token.IsProper := by
  obtain ⟨frames, phase⟩ := state
  cases token with
  | malformed | longInteger digits =>
    cases phase <;> simp [State.step, beginValue, State.close] at taken
  | _ => trivial

private theorem isProper_of_run {state next : State} {tokens : List Token} (taken : run room state tokens = .ok next) :
    ∀ token ∈ tokens, token.IsProper := by
  induction tokens generalizing state with
  | nil => exact List.forall_mem_nil _
  | cons first rest ih =>
    rw [run_cons] at taken
    cases stepped : step room state first with
    | error refusal => rw [stepped] at taken; cases taken
    | ok middle =>
      rw [stepped] at taken
      exact List.forall_mem_cons.mpr ⟨isProper_of_step stepped, ih taken⟩

theorem Tree.isProper_tokens (tree : Tree) : ∀ token ∈ tree.tokens, token.IsProper := by
  have taken := @isRead tree.height tree [] [] (by simp)
  rw [List.append_nil] at taken
  exact isProper_of_run taken

theorem Place.isProper_leading {place : Place} (fits : place.Fits room) : ∀ token ∈ place.leading, token.IsProper := by
  have taken : ∃ next, run room start (place.leading ++ [.text []]) = .ok next :=
    ⟨_, run_leading fits (by simp) []⟩
  obtain ⟨next, taken⟩ := taken
  exact (List.forall_mem_append.mp (isProper_of_run taken)).1

/-- A value is read just from the texts that write a tree which is not too high. -/
theorem read_eq_ok {text : Text} {value : Value} :
    read room text = .ok value ↔
      ∃ tree : Tree, Lexes text tree.tokens [] ∧ tree.height ≤ room ∧ tree.value = value := by
  rw [read, readTokens_eq_ok]
  constructor
  · rintro ⟨tree, spelled, low, value⟩
    exact ⟨tree, (lexes_iff tree.isProper_tokens).mpr spelled, low, value⟩
  · rintro ⟨tree, lexes, low, value⟩
    exact ⟨tree, (lexes_iff tree.isProper_tokens).mp lexes, low, value⟩

/-- A mark at the front of a text, or an integer of too many digits. -/
inductive Begins : Text → Token → Prop where
  | mark {c token rest} (marks : Mark c token) : Begins (c :: rest) token
  | longInteger {word rest digits} (isWord : IsWord word) (ends : EndsWord rest) (long : LongInteger word digits) :
      Begins (word ++ rest) (.longInteger digits)

theorem Begins.tokens {text : Text} {token : Token} (begins : Begins text token) :
    ∃ rest, tokens .between text = token :: rest := by
  cases begins with
  | mark marks => exact ⟨_, tokens_mark marks _⟩
  | @longInteger word rest digits isWord ends long =>
    obtain ⟨more, taken⟩ := wordTokens_longInteger long
    have some : word ≠ [] := by
      rintro rfl
      cases taken
    rw [tokens_between_word isWord some ends, taken]
    exact ⟨_, rfl⟩

theorem Exceeds.begins {depth : Nat} {token : Token} {refusal : Refusal} (exceeds : Exceeds room depth token refusal)
    {text : Text} {rest : List Token} (taken : tokens .between text = token :: rest)
    (ended : ∀ c ∈ text.head?, isSpace c = false) : Begins text token := by
  have some : text ≠ [] := by
    rintro rfl
    cases taken
  have starts := starts_tokens some
  rw [taken] at starts
  generalize seen : token :: rest = tokens at starts
  cases starts with
  | blank space => exact absurd space (Bool.eq_false_iff.mp (ended _ rfl))
  | mark marks =>
    obtain ⟨rfl, -⟩ := List.cons.inj seen
    exact .mark marks
  | quote =>
    have proper : token ≠ .malformed := by cases exceeds <;> simp
    obtain ⟨_, _, _, _, _, rfl, _⟩ := quoted_of_tokens seen.symm proper
    cases exceeds
  | word isWord _ ends takenFor =>
    cases takenFor with
    | long long =>
      obtain ⟨rfl, -⟩ := List.cons.inj seen
      exact .longInteger isWord ends long
    | literal | excess | malformed =>
      obtain ⟨rfl, -⟩ := List.cons.inj seen
      cases exceeds

/-- A text exceeds a limit where a value is next. What follows there does not matter. -/
def BreaksOff (room : Nat) (text : Text) (refusal : Refusal) : Prop :=
  ∃ place left token, Fits room place ∧ Lexes text (leading place) left ∧ Begins left token ∧
    Exceeds room place.length token refusal

/-- Apart from malformed texts, just those are refused that exceed a limit where a value is next. -/
theorem read_eq_error {text : Text} {refusal : Refusal} (proper : refusal ≠ .malformed) :
    read room text = .error refusal ↔ BreaksOff room text refusal := by
  rw [read, readTokens_eq_error proper]
  constructor
  · rintro ⟨place, token, rest, taken, fits, exceeds⟩
    have next : (token :: rest).head? ≠ some .malformed := by cases exceeds <;> simp
    obtain ⟨left, lexes, later, ended⟩ := lexes_of_tokens taken (isProper_leading fits) next
    exact ⟨place, left, token, fits, lexes, exceeds.begins later ended, exceeds⟩
  · rintro ⟨place, left, token, fits, lexes, begins, exceeds⟩
    obtain ⟨rest, taken⟩ := begins.tokens
    exact ⟨place, token, rest, by rw [lexes.tokens, taken], fits, exceeds⟩

end Json

end VDiagnostics
