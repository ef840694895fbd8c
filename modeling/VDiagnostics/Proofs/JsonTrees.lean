import VDiagnostics.Proofs.KeyedEntries
import VDiagnostics.Settings.Json.Reader
import Mathlib.Data.List.Basic

/-! What tokens write: a tree of lists and objects in which a key may come again. The reader takes the tokens of
every tree that is not too high and gives its value, and it refuses all else. What it has read at any time spells
a place in a tree, and a refusal that is no malformed text comes up at such a place. -/

namespace VDiagnostics

namespace Json

inductive Tree where
  | scalar (value : Value)
  | text (value : CodePoints)
  | list (items : List Tree)
  | object (members : List (CodePoints × Tree))

namespace Tree

@[induction_eliminator]
theorem induction {motive : Tree → Prop} (scalar : ∀ value, motive (scalar value))
    (text : ∀ value, motive (text value)) (list : ∀ items, (∀ item ∈ items, motive item) → motive (list items))
    (object : ∀ members, (∀ member ∈ members, motive member.2) → motive (object members)) (tree : Tree) :
    motive tree :=
  @Tree.rec motive (fun items => ∀ item ∈ items, motive item) (fun members => ∀ member ∈ members, motive member.2)
    (fun member => motive member.2) scalar text list object
    (List.forall_mem_nil _) (fun _ _ first rest => List.forall_mem_cons.mpr ⟨first, rest⟩)
    (List.forall_mem_nil _) (fun _ _ first rest => List.forall_mem_cons.mpr ⟨first, rest⟩)
    (fun _ _ holds => holds) tree

mutual

def tokens : Tree → List Token
  | scalar value => [.scalar value]
  | text value => [.text value]
  | list items => .openList :: itemTokens items ++ [.closeList]
  | object members => .openObject :: memberTokens members ++ [.closeObject]

def itemTokens : List Tree → List Token
  | [] => []
  | [item] => item.tokens
  | item :: next :: rest => item.tokens ++ .comma :: itemTokens (next :: rest)

def memberTokens : List (CodePoints × Tree) → List Token
  | [] => []
  | [(key, item)] => .text key :: .colon :: item.tokens
  | (key, item) :: next :: rest => .text key :: .colon :: item.tokens ++ .comma :: memberTokens (next :: rest)

end

mutual

/-- A key that comes again keeps its first place and its last value. -/
def value : Tree → Value
  | scalar value => value
  | text value => .text value
  | list items => .list (itemValues items)
  | object members => .object (Keyed.merge [] (memberValues members))

def itemValues : List Tree → List Value
  | [] => []
  | item :: rest => item.value :: itemValues rest

def memberValues : List (CodePoints × Tree) → List (CodePoints × Value)
  | [] => []
  | (key, item) :: rest => (key, item.value) :: memberValues rest

end

mutual

/-- How many lists and objects lie in each other. -/
def height : Tree → Nat
  | scalar _ | text _ => 0
  | list items => itemsHeight items + 1
  | object members => membersHeight members + 1

def itemsHeight : List Tree → Nat
  | [] => 0
  | item :: rest => max item.height (itemsHeight rest)

def membersHeight : List (CodePoints × Tree) → Nat
  | [] => 0
  | (_, item) :: rest => max item.height (membersHeight rest)

end

/-- Items with a comma after each of them. -/
def precedingItems (items : List Tree) : List Token :=
  items.flatMap fun item => item.tokens ++ [.comma]

def precedingMembers (members : List (CodePoints × Tree)) : List Token :=
  members.flatMap fun member => .text member.1 :: .colon :: member.2.tokens ++ [.comma]

private theorem itemTokens_concat (before : List Tree) (last : Tree) :
    itemTokens (before ++ [last]) = precedingItems before ++ last.tokens := by
  induction before with
  | nil => simp [itemTokens, precedingItems]
  | cons item rest ih =>
    obtain ⟨next, others, split⟩ := List.exists_cons_of_ne_nil (by simp : rest ++ [last] ≠ [])
    rw [List.cons_append, split, itemTokens, ← split, ih]
    simp [precedingItems]

private theorem memberTokens_concat (before : List (CodePoints × Tree)) (key : CodePoints) (last : Tree) :
    memberTokens (before ++ [(key, last)]) = precedingMembers before ++ .text key :: .colon :: last.tokens := by
  induction before with
  | nil => simp [memberTokens, precedingMembers]
  | cons member rest ih =>
    obtain ⟨next, others, split⟩ := List.exists_cons_of_ne_nil (by simp : rest ++ [(key, last)] ≠ [])
    rw [List.cons_append, split, memberTokens, ← split, ih]
    simp [precedingMembers]

theorem itemValues_eq_map (items : List Tree) : itemValues items = items.map value := by
  induction items with
  | nil => rfl
  | cons item rest ih => rw [itemValues, ih, List.map_cons]

theorem memberValues_eq_map (members : List (CodePoints × Tree)) :
    memberValues members = members.map fun member => (member.1, member.2.value) := by
  induction members with
  | nil => rfl
  | cons member rest ih => rw [memberValues, ih, List.map_cons]

private theorem itemsHeight_le {items : List Tree} {bound : Nat} :
    itemsHeight items ≤ bound ↔ ∀ item ∈ items, item.height ≤ bound := by
  induction items with
  | nil => simp [itemsHeight]
  | cons item rest ih => simp only [itemsHeight, Nat.max_le, ih, List.forall_mem_cons]

private theorem membersHeight_le {members : List (CodePoints × Tree)} {bound : Nat} :
    membersHeight members ≤ bound ↔ ∀ member ∈ members, member.2.height ≤ bound := by
  induction members with
  | nil => simp [membersHeight]
  | cons member rest ih => simp only [membersHeight, Nat.max_le, ih, List.forall_mem_cons]

/-- What lies one level further in, where `highest` is the height of the highest. -/
private theorem nested_le {heights : List Nat} {highest depth room : Nat}
    (within : ∀ bound, highest ≤ bound ↔ ∀ height ∈ heights, height ≤ bound) :
    depth + (highest + 1) ≤ room ↔
      depth < room ∧ ∀ height ∈ heights, depth + 1 + height ≤ room := by
  constructor
  · intro low
    have inner := (within (room - (depth + 1))).mp (by omega)
    exact ⟨by omega, fun height member => by have := inner height member; omega⟩
  · intro ⟨below, inner⟩
    have low := (within (room - (depth + 1))).mpr fun height member => by have := inner height member; omega
    omega

theorem height_list_le {items : List Tree} {depth room : Nat} :
    depth + (list items).height ≤ room ↔
      depth < room ∧ ∀ item ∈ items, depth + 1 + item.height ≤ room := by
  have nested := @nested_le (items.map height) (itemsHeight items) depth room
  rw [List.forall_mem_map] at nested
  exact nested fun bound => by rw [itemsHeight_le, List.forall_mem_map]

theorem height_object_le {members : List (CodePoints × Tree)} {depth room : Nat} :
    depth + (object members).height ≤ room ↔
      depth < room ∧ ∀ member ∈ members, depth + 1 + member.2.height ≤ room := by
  have nested := @nested_le (members.map fun member => member.2.height) (membersHeight members) depth room
  rw [List.forall_mem_map] at nested
  exact nested fun bound => by rw [membersHeight_le, List.forall_mem_map]

/-- How many lists and objects are open at most while tokens are read, with so many open before them. -/
def peak : Nat → List Token → Nat
  | depth, [] => depth
  | depth, token :: rest =>
    match token with
    | .openList | .openObject => peak (depth + 1) rest
    | .closeList | .closeObject => max depth (peak (depth - 1) rest)
    | _ => peak depth rest

private theorem le_peak (depth : Nat) (tokens : List Token) : depth ≤ peak depth tokens := by
  induction tokens generalizing depth with
  | nil => exact Nat.le_refl depth
  | cons token rest ih =>
    cases token with
    | openList | openObject => exact Nat.le_of_succ_le (ih (depth + 1))
    | closeList | closeObject => exact Nat.le_max_left _ _
    | _ => exact ih depth

/-- The tokens of a tree raise the peak to the height of the tree. -/
def Peaks (tree : Tree) : Prop :=
  ∀ depth rest, peak depth (tree.tokens ++ rest) = max (depth + tree.height) (peak depth rest)

private theorem peak_itemTokens {items : List Tree} (peaks : ∀ item ∈ items, Peaks item) (depth : Nat)
    (rest : List Token) :
    peak depth (itemTokens items ++ rest) = max (depth + itemsHeight items) (peak depth rest) := by
  induction items with
  | nil => exact (Nat.max_eq_right (le_peak depth rest)).symm
  | cons item others ih =>
    obtain ⟨first, later⟩ := List.forall_mem_cons.mp peaks
    cases others with
    | nil => simp [itemTokens, itemsHeight, first depth rest]
    | cons next more =>
      have separated : peak depth (.comma :: (itemTokens (next :: more) ++ rest)) =
          peak depth (itemTokens (next :: more) ++ rest) := rfl
      have highest : itemsHeight (item :: next :: more) = max item.height (itemsHeight (next :: more)) := rfl
      rw [itemTokens, List.append_assoc, List.cons_append, first, separated, ih later, highest]
      omega

private theorem peak_memberTokens {members : List (CodePoints × Tree)} (peaks : ∀ member ∈ members, Peaks member.2)
    (depth : Nat) (rest : List Token) :
    peak depth (memberTokens members ++ rest) = max (depth + membersHeight members) (peak depth rest) := by
  induction members with
  | nil => exact (Nat.max_eq_right (le_peak depth rest)).symm
  | cons member others ih =>
    obtain ⟨key, item⟩ := member
    obtain ⟨(first : Peaks item), later⟩ := List.forall_mem_cons.mp peaks
    have named (tokens : List Token) : peak depth (.text key :: .colon :: tokens) = peak depth tokens := rfl
    cases others with
    | nil => simp [memberTokens, membersHeight, named, first depth rest]
    | cons next more =>
      have separated : peak depth (.comma :: (memberTokens (next :: more) ++ rest)) =
          peak depth (memberTokens (next :: more) ++ rest) := rfl
      have highest : membersHeight ((key, item) :: next :: more) = max item.height (membersHeight (next :: more)) :=
        rfl
      rw [memberTokens, List.append_assoc, List.cons_append, List.cons_append, named, List.cons_append, first,
        separated, ih later, highest]
      omega

private theorem peaks (tree : Tree) : Peaks tree := by
  induction tree with
  | scalar value | text value => exact fun depth rest => (Nat.max_eq_right (le_peak depth rest)).symm
  | list items ih =>
    intro depth rest
    calc peak depth ((list items).tokens ++ rest)
        = peak (depth + 1) (itemTokens items ++ .closeList :: rest) := by simp [tokens, peak]
      _ = max (depth + (list items).height) (peak depth rest) := by
        rw [peak_itemTokens ih, height, peak, Nat.add_sub_cancel]
        omega
  | object members ih =>
    intro depth rest
    calc peak depth ((object members).tokens ++ rest)
        = peak (depth + 1) (memberTokens members ++ .closeObject :: rest) := by simp [tokens, peak]
      _ = max (depth + (object members).height) (peak depth rest) := by
        rw [peak_memberTokens ih, height, peak, Nat.add_sub_cancel]
        omega

theorem exists_first (tree : Tree) : ∃ first rest, tree.tokens = first :: rest ∧ first ≠ .closeList := by
  cases tree <;> simp [tokens]

end Tree

/-- A list or object in which one tree is missing, with what stands before that tree. -/
inductive Enclosure where
  | list (before : List Tree)
  | object (before : List (CodePoints × Tree)) (key : CodePoints)

namespace Enclosure

open Json.Tree (precedingItems precedingMembers)

def close : Enclosure → Tree → Tree
  | list before, last => .list (before ++ [last])
  | object before key, last => .object (before ++ [(key, last)])

def opening : Enclosure → List Token
  | list before => .openList :: precedingItems before
  | object before key => .openObject :: precedingMembers before ++ [.text key, .colon]

def closing : Enclosure → Token
  | list _ => .closeList
  | object _ _ => .closeObject

/-- What the reader keeps of it. -/
def frame : Enclosure → Frame
  | list before => .list (before.map Tree.value).reverse
  | object before key => .object (Keyed.merge [] (Tree.memberValues before)) key

def trees : Enclosure → List Tree
  | list before => before
  | object before _ => before.map Prod.snd

/-- It may be opened at a depth, and so may what stands in it. -/
def Fits (enclosure : Enclosure) (room depth : Nat) : Prop :=
  depth < room ∧ ∀ tree ∈ enclosure.trees, depth + 1 + tree.height ≤ room

theorem tokens_close (enclosure : Enclosure) (last : Tree) :
    (enclosure.close last).tokens = enclosure.opening ++ last.tokens ++ [enclosure.closing] := by
  cases enclosure with
  | list before => simp [close, opening, closing, Tree.tokens, Tree.itemTokens_concat]
  | object before key => simp [close, opening, closing, Tree.tokens, Tree.memberTokens_concat]

theorem height_close_le {enclosure : Enclosure} {last : Tree} {room depth : Nat} :
    depth + (enclosure.close last).height ≤ room ↔
      enclosure.Fits room depth ∧ depth + 1 + last.height ≤ room := by
  cases enclosure with
  | list before => simp only [close, Fits, trees, Tree.height_list_le, List.forall_mem_append,
      List.forall_mem_singleton, and_assoc]
  | object before key => simp only [close, Fits, trees, Tree.height_object_le, List.forall_mem_append,
      List.forall_mem_singleton, List.forall_mem_map, and_assoc]

end Enclosure

namespace State

def run (room : Nat) (state : State) (tokens : List Token) : Except Refusal State :=
  tokens.foldlM (step room) state

variable {room : Nat}

theorem run_cons (state : State) (token : Token) (rest : List Token) :
    run room state (token :: rest) = (step room state token).bind fun next => run room next rest :=
  List.foldlM_cons

private theorem run_cons_ok {state next : State} {token : Token} (steps : step room state token = .ok next)
    (rest : List Token) :
    run room state (token :: rest) = run room next rest := by
  rw [run_cons, steps]
  rfl

theorem run_concat (state : State) (before : List Token) (token : Token) :
    run room state (before ++ [token]) = (run room state before).bind fun next => step room next token := by
  rw [run, List.foldlM_append]
  refine congrArg _ (funext fun next => ?_)
  rw [List.foldlM_cons, funext fun last => List.foldlM_nil, bind_pure]

private theorem step_openList {frames : List Frame} (below : frames.length < room) :
    step room ⟨frames, .value⟩ .openList = .ok ⟨.list [] :: frames, .valueOrEnd⟩ := by
  simp only [step, beginValue, if_pos below]

private theorem step_openObject {frames : List Frame} (below : frames.length < room) :
    step room ⟨frames, .value⟩ .openObject = .ok ⟨.object [] [] :: frames, .keyOrEnd⟩ := by
  simp only [step, beginValue, if_pos below]

/-- Where a list may end, any other token begins an item. -/
theorem step_valueOrEnd (frames : List Frame) {token : Token} (other : token ≠ .closeList) :
    step room ⟨frames, .valueOrEnd⟩ token = step room ⟨frames, .value⟩ token := by
  cases token <;> first | rfl | exact absurd rfl other

/-- A tree that ends its list or object completes a tree one level further out. -/
theorem step_closing (enclosure : Enclosure) (last : Tree) (outer : List Frame) :
    step room (deliver last.value (enclosure.frame :: outer)) enclosure.closing =
      .ok (deliver (enclosure.close last).value outer) := by
  cases enclosure with
  | list before =>
    simp [Enclosure.frame, Enclosure.closing, Enclosure.close, deliver, step, State.close, Tree.value,
      Tree.itemValues_eq_map]
  | object before key =>
    simp [Enclosure.frame, Enclosure.closing, Enclosure.close, deliver, step, State.close, Tree.value,
      Tree.memberValues_eq_map, Keyed.merge]

end State

open State

namespace Tree

/-- The reader takes a tree for its value, wherever the tree fits below the depth limit. -/
def IsRead (room : Nat) (tree : Tree) : Prop :=
  ∀ frames rest, frames.length + tree.height ≤ room →
    run room ⟨frames, .value⟩ (tree.tokens ++ rest) = run room (deliver tree.value frames) rest

variable {room : Nat}

private theorem run_precedingItems {items : List Tree} (reads : ∀ item ∈ items, IsRead room item)
    (reversed : List Value) (outer : List Frame) (rest : List Token)
    (fits : ∀ item ∈ items, outer.length + 1 + item.height ≤ room) :
    run room ⟨.list reversed :: outer, .value⟩ (precedingItems items ++ rest) =
      run room ⟨.list ((items.map value).reverse ++ reversed) :: outer, .value⟩ rest := by
  induction items generalizing reversed with
  | nil => rfl
  | cons item others ih =>
    obtain ⟨first, later⟩ := List.forall_mem_cons.mp reads
    obtain ⟨low, lower⟩ := List.forall_mem_cons.mp fits
    calc run room ⟨.list reversed :: outer, .value⟩ (precedingItems (item :: others) ++ rest)
        = run room ⟨.list reversed :: outer, .value⟩ (item.tokens ++ .comma :: (precedingItems others ++ rest)) := by
          simp [precedingItems]
      _ = run room ⟨.list (item.value :: reversed) :: outer, .value⟩ (precedingItems others ++ rest) := by
          rw [first (.list reversed :: outer) _ low, deliver, run_cons_ok rfl]
      _ = run room ⟨.list (((item :: others).map value).reverse ++ reversed) :: outer, .value⟩ rest := by
          rw [ih later _ lower]
          simp

/-- A key may come first in an object or after a comma. -/
def AwaitsKey (phase : Phase) : Prop :=
  phase = .key ∨ phase = .keyOrEnd

private theorem run_key {phase : Phase} (awaits : AwaitsKey phase) (entries : List (CodePoints × Value))
    (held key : CodePoints) (outer : List Frame) (rest : List Token) :
    run room ⟨.object entries held :: outer, phase⟩ (.text key :: .colon :: rest) =
      run room ⟨.object entries key :: outer, .value⟩ rest := by
  rcases awaits with rfl | rfl <;> rw [run_cons_ok rfl, run_cons_ok rfl]

private theorem run_precedingMembers {members : List (CodePoints × Tree)}
    (reads : ∀ member ∈ members, IsRead room member.2) {phase : Phase} (awaits : AwaitsKey phase)
    (entries : List (CodePoints × Value)) (held key : CodePoints) (outer : List Frame) (rest : List Token)
    (fits : ∀ member ∈ members, outer.length + 1 + member.2.height ≤ room) :
    run room ⟨.object entries held :: outer, phase⟩ (precedingMembers members ++ .text key :: .colon :: rest) =
      run room ⟨.object (Keyed.merge entries (memberValues members)) key :: outer, .value⟩ rest := by
  induction members generalizing entries held phase with
  | nil => exact run_key awaits entries held key outer rest
  | cons member others ih =>
    obtain ⟨first, later⟩ := List.forall_mem_cons.mp reads
    obtain ⟨low, lower⟩ := List.forall_mem_cons.mp fits
    calc run room ⟨.object entries held :: outer, phase⟩
          (precedingMembers (member :: others) ++ .text key :: .colon :: rest)
        = run room ⟨.object entries held :: outer, phase⟩ (.text member.1 :: .colon :: (member.2.tokens ++
            .comma :: (precedingMembers others ++ .text key :: .colon :: rest))) := by
          simp [precedingMembers]
      _ = run room ⟨.object (Keyed.put member.1 member.2.value entries) member.1 :: outer, .key⟩
            (precedingMembers others ++ .text key :: .colon :: rest) := by
          rw [run_key awaits, first (.object entries member.1 :: outer) _ low, deliver, run_cons_ok rfl]
      _ = run room ⟨.object (Keyed.merge entries (memberValues (member :: others))) key :: outer, .value⟩ rest :=
          ih later (.inl rfl) _ _ lower

end Tree

open Json.Tree (IsRead)

variable {room : Nat}

/-- Once a list or object is open and what stands before the missing tree is read, that tree is next. The
first token that follows is no end of a list, since at first an end would be read as one. -/
theorem Enclosure.run_opening {enclosure : Enclosure} (reads : ∀ tree ∈ enclosure.trees, IsRead room tree)
    (frames : List Frame) (fits : enclosure.Fits room frames.length) {token : Token} (other : token ≠ .closeList)
    (rest : List Token) :
    run room ⟨frames, .value⟩ (enclosure.opening ++ token :: rest) =
      run room ⟨enclosure.frame :: frames, .value⟩ (token :: rest) := by
  obtain ⟨below, low⟩ := fits
  cases enclosure with
  | list before =>
    have begins : run room ⟨.list [] :: frames, .valueOrEnd⟩ (Tree.precedingItems before ++ token :: rest) =
        run room ⟨.list [] :: frames, .value⟩ (Tree.precedingItems before ++ token :: rest) := by
      cases before with
      | nil =>
        rw [Tree.precedingItems, List.flatMap_nil, List.nil_append, run_cons, step_valueOrEnd _ other, run_cons]
      | cons item others =>
        obtain ⟨first, tokens, spelled, other⟩ := item.exists_first
        simp only [Tree.precedingItems, List.flatMap_cons, spelled, List.cons_append]
        rw [run_cons, step_valueOrEnd _ other, run_cons]
    simp only [trees] at reads low
    rw [opening, List.cons_append, run_cons_ok (step_openList below), begins,
      Tree.run_precedingItems reads [] frames _ low, frame, List.append_nil]
  | object before key =>
    simp only [trees, List.forall_mem_map] at reads low
    have spelled : opening (.object before key) ++ token :: rest =
        .openObject :: (Tree.precedingMembers before ++ .text key :: .colon :: token :: rest) := by simp [opening]
    rw [spelled, run_cons_ok (step_openObject below),
      Tree.run_precedingMembers reads (.inr rfl) [] [] key frames _ low, frame]

namespace Tree

private theorem isRead_close (enclosure : Enclosure) (reads : ∀ tree ∈ enclosure.trees, IsRead room tree) {last : Tree}
    (isRead : IsRead room last) : IsRead room (enclosure.close last) := by
  intro frames rest fits
  obtain ⟨inner, low⟩ := Enclosure.height_close_le.mp fits
  obtain ⟨first, tokens, spelled, other⟩ := last.exists_first
  calc run room ⟨frames, .value⟩ ((enclosure.close last).tokens ++ rest)
      = run room ⟨frames, .value⟩ (enclosure.opening ++ first :: (tokens ++ enclosure.closing :: rest)) := by
        simp [Enclosure.tokens_close, spelled]
    _ = run room ⟨enclosure.frame :: frames, .value⟩ (last.tokens ++ enclosure.closing :: rest) := by
        rw [Enclosure.run_opening reads frames inner other, spelled, List.cons_append]
    _ = run room (deliver (enclosure.close last).value frames) rest := by
        rw [isRead (enclosure.frame :: frames) _ low, run_cons_ok (step_closing enclosure last frames)]

theorem isRead (tree : Tree) : IsRead room tree := by
  induction tree with
  | scalar value => exact fun frames rest _ => run_cons_ok rfl rest
  | text value => exact fun frames rest _ => run_cons_ok rfl rest
  | list items ih =>
    rcases List.eq_nil_or_concat' items with rfl | ⟨before, last, rfl⟩
    · intro frames rest fits
      have below : frames.length < room := by rw [height] at fits; omega
      rw [tokens, itemTokens, List.cons_append, List.cons_append, run_cons_ok (step_openList below)]
      rfl
    · rw [List.forall_mem_append] at ih
      exact isRead_close (.list before) ih.1 (ih.2 last (List.mem_singleton.mpr rfl))
  | object members ih =>
    rcases List.eq_nil_or_concat' members with rfl | ⟨before, last, rfl⟩
    · intro frames rest fits
      have below : frames.length < room := by rw [height] at fits; omega
      rw [tokens, memberTokens, List.cons_append, List.cons_append, run_cons_ok (step_openObject below)]
      rfl
    · rw [List.forall_mem_append] at ih
      exact isRead_close (.object before last.1) (List.forall_mem_map.mpr ih.1)
        (ih.2 last (List.mem_singleton.mpr rfl))

end Tree

end Json

end VDiagnostics
