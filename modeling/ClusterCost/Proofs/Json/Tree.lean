import ClusterCost.Json.Number
import ClusterCost.Json.Value
import Mathlib.Tactic.Common

/-!
# What a text says

`Tree` is what a JSON text says. It keeps the order of the members of an object, and members with
the same key. It has a place also for what cannot be kept as a value: a number beyond the largest
one, and a text with half a pair of surrogates or with bytes that are no characters. Whoever passes
over a part of a text does not mind these; whoever keeps it refuses them (`Tree.Kept`).
-/

namespace ClusterCost.Json

/-- What a text says. -/
inductive Tree where
  | null
  | bool (b : Bool)
  /-- A number, or nothing where it is beyond the largest one. -/
  | number (n : Option Number)
  /-- A text, or nothing where it cannot be decoded. -/
  | text (s : Option String)
  | list (items : List Tree)
  | object (members : List (Option String × Tree))
  deriving Inhabited

/-- The text that a tree is, if it is one. -/
def Tree.text? : Tree → Option String
  | .text s => s
  | _ => none

/-- Each text and number can be kept, and at most so many lists and objects are in one another. -/
inductive Tree.Kept : Nat → Tree → Prop
  | null (room : Nat) : Kept room .null
  | bool (room : Nat) (b : Bool) : Kept room (.bool b)
  | number (room : Nat) (n : Number) : Kept room (.number (some n))
  | text (room : Nat) (s : String) : Kept room (.text (some s))
  | list {room : Nat} {items : List Tree} (h : ∀ t ∈ items, Kept room t) :
      Kept (room + 1) (.list items)
  | object {room : Nat} {members : List (Option String × Tree)} (hkeys : ∀ m ∈ members, m.1 ≠ none)
      (h : ∀ m ∈ members, Kept room m.2) : Kept (room + 1) (.object members)

lemma Tree.Kept.mono {room : Nat} {t : Tree} (h : t.Kept room) {more : Nat} (hmore : room ≤ more) :
    t.Kept more := by
  induction h generalizing more with
  | null room => exact .null more
  | bool room b => exact .bool more b
  | number room n => exact .number more n
  | text room s => exact .text more s
  | list h ih =>
    obtain ⟨more, rfl⟩ := Nat.exists_eq_add_of_le' hmore
    exact .list fun t ht => ih t ht (Nat.le_add_left _ _)
  | object hkeys h ih =>
    obtain ⟨more, rfl⟩ := Nat.exists_eq_add_of_le' hmore
    exact .object hkeys fun m hm => ih m hm (Nat.le_add_left _ _)

section Kept

variable {room : Nat}

@[simp] lemma Tree.not_kept_number : ¬ (Tree.number none).Kept room := by
  rintro ⟨⟩

@[simp] lemma Tree.not_kept_text : ¬ (Tree.text none).Kept room := by
  rintro ⟨⟩

lemma Tree.kept_list_iff {items : List Tree} :
    (Tree.list items).Kept room ↔ 0 < room ∧ ∀ t ∈ items, t.Kept (room - 1) := by
  constructor
  · rintro ⟨⟩
    exact ⟨Nat.succ_pos _, ‹_›⟩
  · rintro ⟨hroom, h⟩
    obtain ⟨room, rfl⟩ := Nat.exists_eq_add_of_lt hroom
    simp only [Nat.zero_add, Nat.add_sub_cancel] at h ⊢
    exact .list h

lemma Tree.kept_object_iff {members : List (Option String × Tree)} :
    (Tree.object members).Kept room ↔
      0 < room ∧ (∀ m ∈ members, m.1 ≠ none) ∧ ∀ m ∈ members, m.2.Kept (room - 1) := by
  constructor
  · rintro ⟨⟩
    exact ⟨Nat.succ_pos _, ‹_›, ‹_›⟩
  · rintro ⟨hroom, hkeys, h⟩
    obtain ⟨room, rfl⟩ := Nat.exists_eq_add_of_lt hroom
    simp only [Nat.zero_add, Nat.add_sub_cancel] at h ⊢
    exact .object hkeys h

end Kept

/-! ### The tree of a value -/

/-- A whole number as it is read. -/
def Number.ofInt : Int → Number
  | .ofNat n => .natural n
  | .negSucc n => .negative (n + 1)

mutual

/-- What the written forms of a value say. -/
def Value.tree : Value → Tree
  | .null => .null
  | .bool b => .bool b
  | .integer n => .number (some (.ofInt n))
  | .real x => .number (some (.real x))
  | .text s => .text (some s)
  | .list items => .list (itemTrees items)
  | .object members => .object (memberTrees members)

def Value.itemTrees : List Value → List Tree
  | [] => []
  | item :: rest => item.tree :: itemTrees rest

def Value.memberTrees : List (String × Value) → List (Option String × Tree)
  | [] => []
  | (key, value) :: rest => (some key, value.tree) :: memberTrees rest

end

namespace Value

lemma itemTrees_eq_map (items : List Value) : itemTrees items = items.map tree := by
  induction items with
  | nil => rfl
  | cons item rest ih => rw [itemTrees, ih, List.map_cons]

lemma memberTrees_eq_map (members : List (String × Value)) :
    memberTrees members = members.map fun m => (some m.1, m.2.tree) := by
  induction members with
  | nil => rfl
  | cons member rest ih => rw [memberTrees, ih, List.map_cons]

mutual

/-- A value can be kept. -/
lemma kept_tree (v : Value) : ∃ room, v.tree.Kept room := by
  cases v with
  | null => exact ⟨0, .null 0⟩
  | bool b => exact ⟨0, .bool 0 b⟩
  | integer n => exact ⟨0, .number 0 _⟩
  | real x => exact ⟨0, .number 0 _⟩
  | text s => exact ⟨0, .text 0 s⟩
  | list items =>
    obtain ⟨room, h⟩ := kept_itemTrees items
    exact ⟨room + 1, .list h⟩
  | object members =>
    obtain ⟨room, hkeys, h⟩ := kept_memberTrees members
    exact ⟨room + 1, .object hkeys h⟩

lemma kept_itemTrees (items : List Value) : ∃ room, ∀ t ∈ itemTrees items, t.Kept room := by
  match items with
  | [] => exact ⟨0, fun _ h => absurd h List.not_mem_nil⟩
  | item :: rest =>
    obtain ⟨room, hitem⟩ := kept_tree item
    obtain ⟨more, hrest⟩ := kept_itemTrees rest
    refine ⟨max room more, List.forall_mem_cons.mpr ⟨hitem.mono (Nat.le_max_left _ _), ?_⟩⟩
    exact fun t ht => (hrest t ht).mono (Nat.le_max_right _ _)

lemma kept_memberTrees (members : List (String × Value)) :
    ∃ room, (∀ m ∈ memberTrees members, m.1 ≠ none) ∧ ∀ m ∈ memberTrees members, m.2.Kept room := by
  match members with
  | [] => exact ⟨0, fun _ h => absurd h List.not_mem_nil, fun _ h => absurd h List.not_mem_nil⟩
  | (key, value) :: rest =>
    obtain ⟨room, hvalue⟩ := kept_tree value
    obtain ⟨more, hkeys, hrest⟩ := kept_memberTrees rest
    refine ⟨max room more, List.forall_mem_cons.mpr ⟨Option.some_ne_none key, hkeys⟩,
      List.forall_mem_cons.mpr ⟨?_, ?_⟩⟩
    · exact hvalue.mono (Nat.le_max_left _ _)
    · exact fun m hm => (hrest m hm).mono (Nat.le_max_right _ _)

end

end Value

end ClusterCost.Json
