import ClusterCost.Dictionary
import Mathlib.Data.List.Nodup
import Mathlib.Data.List.Perm.Basic
import Mathlib.Tactic.Common

/-!
# The last value of a name

Where entries are taken one after another, the last value of a name counts (`lastValue`). If no name
is given twice, the order of the entries does not matter (`lastValue_perm`).
-/

namespace ClusterCost

section LastValue

variable {α β : Type} [BEq α] {entries other : List (α × β)} {name : α} {value : β}

/-- The last value that entries give to a name. -/
def lastValue (entries : List (α × β)) (name : α) : Option β := entries.reverse.lookup name

@[simp] lemma lastValue_nil (name : α) : lastValue ([] : List (α × β)) name = none := rfl

lemma lastValue_append (entries other : List (α × β)) (name : α) :
    lastValue (entries ++ other) name = (lastValue other name).or (lastValue entries name) := by
  rw [lastValue, List.reverse_append, List.lookup_append, lastValue, lastValue]

lemma lastValue_singleton (entry : α × β) (name : α) :
    lastValue [entry] name = if name == entry.1 then some entry.2 else none := by
  obtain ⟨key, value⟩ := entry
  simp only [lastValue, List.reverse_singleton, List.lookup_cons, List.lookup_nil]
  cases name == key <;> rfl

lemma lastValue_cons (entry : α × β) (entries : List (α × β)) (name : α) :
    lastValue (entry :: entries) name =
      (lastValue entries name).or (if name == entry.1 then some entry.2 else none) := by
  rw [← List.singleton_append, lastValue_append, lastValue_singleton]

lemma lastValue_map {γ : Type} (f : β → γ) (entries : List (α × β)) (name : α) :
    lastValue (entries.map fun entry => (entry.1, f entry.2)) name =
      (lastValue entries name).map f := by
  induction entries with
  | nil => rfl
  | cons entry rest ih =>
    rw [List.map_cons, lastValue_cons, lastValue_cons, ih]
    cases lastValue rest name <;> simp

variable [LawfulBEq α]

/-- The last value of a name depends only on the entries for this name. -/
lemma lastValue_filter (entries : List (α × β)) (name : α) :
    lastValue (entries.filter (·.1 == name)) name = lastValue entries name := by
  induction entries with
  | nil => rfl
  | cons entry rest ih =>
    rw [List.filter_cons, lastValue_cons]
    by_cases h : entry.1 = name
    · rw [if_pos (by simpa using h), lastValue_cons, ih]
    · rw [if_neg (by simpa using h), ih, if_neg (by simpa using Ne.symm h), Option.or_none]

lemma lastValue_eq_none_iff : lastValue entries name = none ↔ name ∉ entries.map (·.1) := by
  simp only [lastValue, List.lookup_eq_none_iff, List.mem_reverse, bne_iff_ne, List.mem_map,
    not_exists, not_and]
  exact ⟨fun h entry hentry hname => h entry hentry hname.symm,
    fun h entry hentry hname => h entry hentry hname.symm⟩

lemma mem_of_lastValue (h : lastValue entries name = some value) : (name, value) ∈ entries := by
  obtain ⟨before, after, heq, -⟩ := List.lookup_eq_some_iff.mp h
  rw [← List.mem_reverse, heq]
  exact List.mem_append_right _ List.mem_cons_self

/-- Where no name is given twice, each value is the last of its name. -/
lemma lastValue_eq_some_iff (h : (entries.map (·.1)).Nodup) :
    lastValue entries name = some value ↔ (name, value) ∈ entries := by
  refine ⟨mem_of_lastValue, fun hmem => ?_⟩
  cases hlast : lastValue entries name with
  | none => exact absurd (List.mem_map_of_mem hmem) (lastValue_eq_none_iff.mp hlast)
  | some last =>
    have heq := List.inj_on_of_nodup_map h (mem_of_lastValue hlast) hmem rfl
    rw [(Prod.mk.inj heq).2]

lemma lastValue_perm (h : (entries.map (·.1)).Nodup) (hperm : entries.Perm other) (name : α) :
    lastValue entries name = lastValue other name := by
  have hother : (other.map (·.1)).Nodup := (hperm.map _).nodup_iff.mp h
  ext value
  rw [lastValue_eq_some_iff h, lastValue_eq_some_iff hother, hperm.mem_iff]

end LastValue

namespace Dictionary

variable {α : Type}

lemma mem_entries_iff {d : Dictionary α} {name : String} {a : α} :
    (name, a) ∈ d.entries ↔ d.get? name = some a := by
  have hnames : (d.entries.reverse.map (·.1)).Nodup := by
    rw [List.map_reverse, List.nodup_reverse]
    exact d.nodup
  rw [← List.mem_reverse, ← lastValue_eq_some_iff hnames, lastValue, List.reverse_reverse, get?]

lemma get?_foldl_insert (entries : List (String × α)) (d : Dictionary α) (name : String) :
    (entries.foldl (fun d entry => d.insert entry.1 entry.2) d).get? name =
      (lastValue entries name).or (d.get? name) := by
  induction entries generalizing d with
  | nil => rfl
  | cons entry rest ih =>
    rw [List.foldl_cons, ih, get?_insert, lastValue_cons, Option.or_assoc]
    by_cases h : name = entry.1 <;> simp [h]

/-- A new name comes last. -/
lemma entries_insert_new {d : Dictionary α} {name : String} (h : name ∉ d.keys) (a : α) :
    (d.insert name a).entries = d.entries ++ [(name, a)] := by
  have hnew : d.contains name = false := by
    rw [contains, List.contains_eq_mem]
    exact decide_eq_false h
  simp [insert, hnew]

lemma entries_foldl_insert {entries : List (String × α)} {d : Dictionary α}
    (h : (d.keys ++ entries.map (·.1)).Nodup) :
    (entries.foldl (fun d entry => d.insert entry.1 entry.2) d).entries = d.entries ++ entries := by
  induction entries generalizing d with
  | nil => simp
  | cons entry rest ih =>
    have hnew : entry.1 ∉ d.keys :=
      fun hmem => (List.disjoint_of_nodup_append h) hmem (List.mem_cons_self)
    have hentries := entries_insert_new hnew entry.2
    have hkeys : (d.insert entry.1 entry.2).keys = d.keys ++ [entry.1] := by
      rw [keys, hentries, List.map_append]
      rfl
    rw [List.foldl_cons, ih (by rw [hkeys, List.append_assoc]; exact h), hentries,
      List.append_assoc]
    rfl

/-- The dictionary of its own entries is the dictionary itself. -/
theorem ofList_entries (d : Dictionary α) : ofList d.entries = d := by
  have hentries : (ofList d.entries).entries = d.entries := entries_foldl_insert d.nodup
  cases h : ofList d.entries with
  | mk entries nodup =>
    rw [h] at hentries
    cases d
    cases hentries
    rfl

lemma get?_perm {d e : Dictionary α} (h : d.entries.Perm e.entries) (name : String) :
    d.get? name = e.get? name := by
  ext a
  rw [← mem_entries_iff, ← mem_entries_iff, h.mem_iff]

/-- A dictionary of entries gives each name its last value. -/
theorem get?_ofList (entries : List (String × α)) (name : String) :
    (ofList entries).get? name = lastValue entries name := by
  rw [ofList, get?_foldl_insert, get?_empty, Option.or_none]

end Dictionary

end ClusterCost
