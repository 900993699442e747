import ClusterCost.Json.Reader
import ClusterCost.Proofs.Json.Tree
import ClusterCost.Proofs.Outcome

/-!
# What an outline says

`Outline.tree?` is what an outline says, without the places of its parts, if nothing in it is broken
off or out of place. This is just what can be passed over (`skipFailure_eq_none_iff`).
`Outline.check` asks for more: that all of it can be kept (`check_eq_ok_iff`).
-/

namespace ClusterCost.Json

/-! ### Entering a list or an object -/

namespace Reading

/-- A list or an object can be entered. -/
def Opens (r : Reading) : Prop := r.held = true ∨ 1 < r.depth

/-- The reading of what is in a list or an object. -/
def inner (r : Reading) : Reading := if r.held then r else { r with depth := r.depth - 1 }

/-- What is not held is entered as long as there is depth left. -/
lemma opens_iff {r : Reading} (h : r.held = false) : r.Opens ↔ 0 < r.depth - 1 := by
  rw [Opens, h, Nat.sub_pos_iff_lt]
  simp

@[simp] lemma held_inner (r : Reading) : r.inner.held = r.held := by
  rw [inner]
  split_ifs <;> rfl

lemma depth_inner {r : Reading} (h : r.held = false) : r.inner.depth = r.depth - 1 := by
  rw [inner, if_neg (by simp [h])]

lemma enter_eq_ok_iff {r inner : Reading} {start : Nat} :
    r.enter start = .ok inner ↔ r.Opens ∧ inner = r.inner := by
  rw [enter, Opens, Reading.inner]
  by_cases hheld : r.held = true
  · simp [hheld, eq_comm]
  · by_cases hdepth : r.depth ≤ 1
    · simp [hheld, hdepth, Nat.not_lt.mpr hdepth]
    · simp [hheld, hdepth, Nat.lt_of_not_le hdepth, eq_comm]

end Reading

namespace Outline

mutual

/-- What an outline says, if it has no fault. -/
def tree? : Outline → Option Tree
  | broken .. | list _ _ (.error _) | object _ _ (.error _) => none
  | null .. => some .null
  | bool _ _ b => some (.bool b)
  | number _ _ _ value => some (.number value.toOption)
  | text _ _ value => some (.text value.toOption)
  | list _ items (.ok _) => (itemTrees? items).map .list
  | object _ members (.ok _) => (memberTrees? members).map .object

/-- What the items of a list say. -/
def itemTrees? : List Outline → Option (List Tree)
  | [] => some []
  | item :: rest =>
    match tree? item, itemTrees? rest with
    | some t, some ts => some (t :: ts)
    | _, _ => none

/-- What the keys and values of an object say. -/
def memberTrees? : List (Key × Outline) → Option (List (Option String × Tree))
  | [] => some []
  | (key, value) :: rest =>
    match tree? value, memberTrees? rest with
    | some t, some ms => some ((key.text.toOption, t) :: ms)
    | _, _ => none

end

/-! ### Taking an outline apart -/

lemma itemTrees?_eq_some_iff {items : List Outline} {ts : List Tree} :
    itemTrees? items = some ts ↔ List.Forall₂ (fun o t => tree? o = some t) items ts := by
  induction items generalizing ts with
  | nil => rw [itemTrees?, List.forall₂_nil_left_iff, Option.some.injEq, eq_comm]
  | cons item rest ih =>
    rw [itemTrees?, List.forall₂_cons_left_iff]
    simp only [← ih]
    cases tree? item <;> cases itemTrees? rest <;> simp [eq_comm]

lemma memberTrees?_eq_some_iff {members : List (Key × Outline)} {ms : List (Option String × Tree)} :
    memberTrees? members = some ms ↔
      List.Forall₂ (fun member m => member.1.text.toOption = m.1 ∧ tree? member.2 = some m.2)
        members ms := by
  induction members generalizing ms with
  | nil => rw [memberTrees?, List.forall₂_nil_left_iff, Option.some.injEq, eq_comm]
  | cons member rest ih =>
    obtain ⟨key, value⟩ := member
    rw [memberTrees?, List.forall₂_cons_left_iff]
    simp only [← ih]
    cases tree? value <;> cases memberTrees? rest <;> simp [eq_comm]

/-- The outlines that say a tree, one for each form of trees. -/
inductive SaysTree : Outline → Tree → Prop
  | null (start stop : Nat) : SaysTree (.null start stop) .null
  | bool (start stop : Nat) (b : Bool) : SaysTree (.bool start stop b) (.bool b)
  | number (start stop ahead : Nat) (value : Except RangeFault Number) :
      SaysTree (.number start stop ahead value) (.number value.toOption)
  | text (start stop : Nat) (value : Except Failure String) :
      SaysTree (.text start stop value) (.text value.toOption)
  | list (start stop : Nat) {items : List Outline} {ts : List Tree}
      (h : List.Forall₂ (fun o t => tree? o = some t) items ts) :
      SaysTree (.list start items (.ok stop)) (.list ts)
  | object (start stop : Nat) {members : List (Key × Outline)} {ms : List (Option String × Tree)}
      (h : List.Forall₂ (fun member m => member.1.text.toOption = m.1 ∧ tree? member.2 = some m.2)
        members ms) :
      SaysTree (.object start members (.ok stop)) (.object ms)

lemma tree?_eq_some_iff {o : Outline} {t : Tree} : o.tree? = some t ↔ SaysTree o t := by
  constructor
  · intro h
    cases o with
    | broken start fault => cases h
    | null start stop =>
      cases h
      exact .null start stop
    | bool start stop b =>
      cases h
      exact .bool start stop b
    | number start stop ahead value =>
      cases h
      exact .number start stop ahead value
    | text start stop value =>
      cases h
      exact .text start stop value
    | list start items closing =>
      cases closing with
      | error fault => cases h
      | ok stop =>
        obtain ⟨ts, hts, rfl⟩ := Option.map_eq_some_iff.mp h
        exact .list start stop (itemTrees?_eq_some_iff.mp hts)
    | object start members closing =>
      cases closing with
      | error fault => cases h
      | ok stop =>
        obtain ⟨ms, hms, rfl⟩ := Option.map_eq_some_iff.mp h
        exact .object start stop (memberTrees?_eq_some_iff.mp hms)
  · intro h
    cases h with
    | list start stop h => rw [tree?, itemTrees?_eq_some_iff.mpr h, Option.map_some]
    | object start stop h => rw [tree?, memberTrees?_eq_some_iff.mpr h, Option.map_some]
    | _ => rw [tree?]

/-! ### Passing over an outline -/

mutual

/-- An outline can be passed over if and only if it has no fault. -/
theorem skipFailure_eq_none_iff (o : Outline) : o.skipFailure = none ↔ ∃ t, o.tree? = some t := by
  cases o with
  | list start items closing =>
    rw [skipFailure, Option.orElse_eq_or, Option.or_eq_none_iff, skipItemsFailure_eq_none_iff items]
    cases closing with
    | error fault => simp [skipFailure.closingFailure, tree?]
    | ok stop => simp [skipFailure.closingFailure, tree?]
  | object start members closing =>
    rw [skipFailure, Option.orElse_eq_or, Option.or_eq_none_iff,
      skipMembersFailure_eq_none_iff members]
    cases closing with
    | error fault => simp [skipFailure.closingFailure, tree?]
    | ok stop => simp [skipFailure.closingFailure, tree?]
  | _ => simp [skipFailure, tree?]

theorem skipItemsFailure_eq_none_iff (items : List Outline) :
    skipItemsFailure items = none ↔ ∃ ts, itemTrees? items = some ts := by
  match items with
  | [] => simp [skipItemsFailure, itemTrees?]
  | item :: rest =>
    rw [skipItemsFailure, Option.orElse_eq_or, Option.or_eq_none_iff, skipFailure_eq_none_iff item,
      skipItemsFailure_eq_none_iff rest, itemTrees?]
    cases tree? item <;> cases itemTrees? rest <;> simp

theorem skipMembersFailure_eq_none_iff (members : List (Key × Outline)) :
    skipMembersFailure members = none ↔ ∃ ms, memberTrees? members = some ms := by
  match members with
  | [] => simp [skipMembersFailure, memberTrees?]
  | (key, value) :: rest =>
    rw [skipMembersFailure, Option.orElse_eq_or, Option.or_eq_none_iff,
      skipFailure_eq_none_iff value, skipMembersFailure_eq_none_iff rest, memberTrees?]
    cases tree? value <;> cases memberTrees? rest <;> simp

end

/-! ### Keeping an outline -/

lemma closingKept_eq_ok_iff {closing : Except Fault Nat} :
    closingKept closing = .ok () ↔ ∃ stop, closing = .ok stop := by
  cases closing <;> simp [closingKept]

mutual

/-- An outline can be kept if and only if what it says can. -/
theorem check_eq_ok_iff {r : Reading} (hheld : r.held = false) (o : Outline) :
    o.check r = .ok () ↔ ∃ t, o.tree? = some t ∧ t.Kept (r.depth - 1) := by
  cases o with
  | broken start fault => simp [check, tree?]
  | null start stop => simp [check, tree?, Tree.Kept.null]
  | bool start stop b => simp [check, tree?, Tree.Kept.bool]
  | number start stop ahead value =>
    cases value with
    | error fault => simp [check, tree?, Except.toOption]
    | ok n => simp [check, tree?, Except.toOption, Tree.Kept.number]
  | text start stop value =>
    cases value with
    | error failure => simp [check, tree?, Except.toOption]
    | ok s => simp [check, tree?, Except.toOption, Tree.Kept.text]
  | list start items closing =>
    have hroom : r.inner.depth = r.depth - 1 := Reading.depth_inner hheld
    have hitems := checkItems_eq_ok_iff (r := r.inner) (by rw [Reading.held_inner, hheld]) items
    rw [hroom] at hitems
    simp only [check, bind_eq_ok_iff, Unique.exists_iff, PUnit.default_eq_unit,
      Reading.enter_eq_ok_iff, closingKept_eq_ok_iff]
    cases closing with
    | error fault => simp [tree?]
    | ok stop => simp [tree?, Tree.kept_list_iff, Reading.opens_iff hheld, hitems, and_left_comm]
  | object start members closing =>
    have hroom : r.inner.depth = r.depth - 1 := Reading.depth_inner hheld
    have hmembers := checkMembers_eq_ok_iff (r := r.inner)
      (by rw [Reading.held_inner, hheld]) members
    rw [hroom] at hmembers
    simp only [check, bind_eq_ok_iff, Unique.exists_iff, PUnit.default_eq_unit,
      Reading.enter_eq_ok_iff, closingKept_eq_ok_iff]
    cases closing with
    | error fault => simp [tree?]
    | ok stop =>
      simp [tree?, Tree.kept_object_iff, Reading.opens_iff hheld, hmembers, and_left_comm]

theorem checkItems_eq_ok_iff {r : Reading} (hheld : r.held = false) (items : List Outline) :
    checkItems r items = .ok () ↔
      ∃ ts, itemTrees? items = some ts ∧ ∀ t ∈ ts, t.Kept (r.depth - 1) := by
  match items with
  | [] => simp [checkItems, itemTrees?]
  | item :: rest =>
    simp only [checkItems, bind_eq_ok_iff, check_eq_ok_iff hheld item,
      checkItems_eq_ok_iff hheld rest, itemTrees?]
    cases tree? item <;> cases itemTrees? rest <;> simp

theorem checkMembers_eq_ok_iff {r : Reading} (hheld : r.held = false)
    (members : List (Key × Outline)) :
    checkMembers r members = .ok () ↔
      ∃ ms, memberTrees? members = some ms ∧ (∀ m ∈ ms, m.1 ≠ none) ∧
        ∀ m ∈ ms, m.2.Kept (r.depth - 1) := by
  match members with
  | [] => simp [checkMembers, memberTrees?]
  | (key, value) :: rest =>
    simp only [checkMembers, bind_eq_ok_iff, check_eq_ok_iff hheld value,
      checkMembers_eq_ok_iff hheld rest, memberTrees?]
    cases key.text <;> cases tree? value <;> cases memberTrees? rest <;>
      simp [Except.toOption, -Prod.forall, -Prod.exists, and_left_comm]

end

end Outline

end ClusterCost.Json
