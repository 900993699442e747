/-!
# Dictionaries

A dictionary gives each of some names one value. The entries keep the order in which their names
were first given; giving a name again replaces its value in place.
-/

namespace ClusterCost

/-- Names with a value each. -/
structure Dictionary (α : Type) where
  entries : List (String × α)
  nodup : (entries.map (·.1)).Nodup := by simp

namespace Dictionary

variable {α β : Type}

def empty : Dictionary α := ⟨[], by simp⟩

instance : Inhabited (Dictionary α) := ⟨empty⟩

def keys (d : Dictionary α) : List String := d.entries.map (·.1)

def get? (d : Dictionary α) (name : String) : Option α := d.entries.lookup name

def contains (d : Dictionary α) (name : String) : Bool := d.keys.contains name

def size (d : Dictionary α) : Nat := d.entries.length

/-- Replace the value of a name in a list of entries. -/
def replace (entries : List (String × α)) (name : String) (a : α) : List (String × α) :=
  entries.map fun entry => if entry.1 = name then (name, a) else entry

theorem map_fst_replace (entries : List (String × α)) (name : String) (a : α) :
    (replace entries name a).map (·.1) = entries.map (·.1) := by
  simp only [replace, List.map_map]
  apply List.map_congr_left
  intro entry _
  by_cases h : entry.1 = name <;> simp [h]

def insert (d : Dictionary α) (name : String) (a : α) : Dictionary α :=
  if h : d.contains name then ⟨replace d.entries name a, by rw [map_fst_replace]; exact d.nodup⟩
  else ⟨d.entries ++ [(name, a)], by
    have : name ∉ d.entries.map (·.1) := by simpa [contains, keys] using h
    rw [List.map_append, List.nodup_append]
    refine ⟨d.nodup, by simp, ?_⟩
    intro x hx y hy
    simp only [List.map_cons, List.map_nil, List.mem_singleton] at hy
    subst hy
    exact fun heq => this (heq ▸ hx)⟩

/-- The dictionary of these entries; of two values of one name the later counts. -/
def ofList (entries : List (String × α)) : Dictionary α :=
  entries.foldl (fun d entry => d.insert entry.1 entry.2) empty

def values (d : Dictionary α) : List α := d.entries.map (·.2)

/-- The dictionary with each value changed by the same rule. -/
def map (f : α → β) (d : Dictionary α) : Dictionary β :=
  ⟨d.entries.map fun entry => (entry.1, f entry.2), by
    have : (d.entries.map fun entry => (entry.1, f entry.2)).map (·.1) = d.entries.map (·.1) := by
      simp [List.map_map, Function.comp_def]
    rw [this]; exact d.nodup⟩

/-! ### Entries sorted by name -/

/-- Texts in ascending order of their UTF-8 bytes, which is the order of their code points. -/
def sorted (names : List String) : List String := names.mergeSort fun a b => decide (a ≤ b)

def toSortedList (d : Dictionary α) : List (String × α) :=
  d.entries.mergeSort fun a b => decide (a.1 ≤ b.1)

/-! ### Laws -/

@[simp] theorem keys_empty : (empty : Dictionary α).keys = [] := rfl

@[simp] theorem get?_empty (name : String) : (empty : Dictionary α).get? name = none := rfl

theorem isSome_get? (d : Dictionary α) (name : String) :
    (d.get? name).isSome = d.contains name := by
  rw [Bool.eq_iff_iff, get?, List.lookup_isSome_iff, contains, keys, List.contains_iff_mem,
    List.mem_map]
  simp only [beq_iff_eq, eq_comm (a := name)]

theorem mem_keys {d : Dictionary α} {name : String} :
    name ∈ d.keys ↔ (d.get? name).isSome = true := by
  rw [isSome_get?, contains, List.contains_iff_mem]

private theorem lookup_replace (entries : List (String × α)) (name other : String) (a : α) :
    (replace entries name a).lookup other =
      if other = name ∧ name ∈ entries.map (·.1) then some a else entries.lookup other := by
  induction entries with
  | nil => simp [replace]
  | cons entry rest ih =>
    obtain ⟨key, value⟩ := entry
    have step : replace ((key, value) :: rest) name a =
      (if key = name then (name, a) else (key, value)) :: replace rest name a := rfl
    rw [step]
    by_cases hk : key = name
    · subst hk
      by_cases ho : other = key
      · subst ho; simp
      · have : (other == key) = false := by simp [ho]
        simp [List.lookup_cons, this, ih, ho]
    · have hk' : name ≠ key := fun h => hk h.symm
      by_cases ho : other = key
      · subst ho
        simp [hk]
      · have : (other == key) = false := by simp [ho]
        simp only [List.lookup_cons, hk, if_false, this, ih, List.map_cons, List.mem_cons,
          hk', false_or]

private theorem lookup_append_of_not_mem (entries : List (String × α)) (name other : String) (a : α)
    (h : name ∉ entries.map (·.1)) :
    (entries ++ [(name, a)]).lookup other =
      if other = name then some a else entries.lookup other := by
  induction entries with
  | nil =>
    by_cases ho : other = name
    · simp [ho]
    · have : (other == name) = false := by simp [ho]
      simp [List.lookup_cons, ho, this]
  | cons entry rest ih =>
    obtain ⟨key, value⟩ := entry
    simp only [List.map_cons, List.mem_cons, not_or] at h
    simp only [List.cons_append, List.lookup_cons, ih h.2]
    by_cases ho : other = key
    · subst ho
      have : ¬ other = name := fun e => h.1 e.symm
      simp [this]
    · have : (other == key) = false := by simp [ho]
      simp [this]

theorem get?_insert (d : Dictionary α) (name other : String) (a : α) :
    (d.insert name a).get? other = if other = name then some a else d.get? other := by
  by_cases h : d.contains name
  · have hm : name ∈ d.entries.map (·.1) := by simpa [contains, keys] using h
    simp only [insert, h, dite_true, get?]
    rw [lookup_replace]
    by_cases ho : other = name <;> simp [ho]
    intro hn
    exact absurd hm (by simpa using hn)
  · have hm : name ∉ d.entries.map (·.1) := by simpa [contains, keys] using h
    simp only [insert, h, get?, Bool.false_eq_true, dite_false]
    exact lookup_append_of_not_mem _ _ _ _ hm

theorem mem_entries_insert (d : Dictionary α) (name : String) (a : α) (entry : String × α) :
    entry ∈ (d.insert name a).entries ↔ entry = (name, a) ∨ entry ∈ d.entries ∧ entry.1 ≠ name := by
  by_cases h : d.contains name
  · have hmem : ∃ old ∈ d.entries, old.1 = name := by simpa [contains, keys] using h
    simp only [insert, h, dite_true, replace, List.mem_map]
    constructor
    · rintro ⟨old, hold, rfl⟩
      by_cases hname : old.1 = name
      · exact .inl (by rw [if_pos hname])
      · exact .inr (by rw [if_neg hname]; exact ⟨hold, hname⟩)
    · rintro (rfl | ⟨hold, hname⟩)
      · obtain ⟨old, hold, hname⟩ := hmem
        exact ⟨old, hold, by rw [if_pos hname]⟩
      · exact ⟨entry, hold, by rw [if_neg hname]⟩
  · have hnew : ∀ old ∈ d.entries, old.1 ≠ name := by
      intro old hold hname
      exact h (by simpa [contains, keys] using ⟨old.2, hname ▸ hold⟩)
    simp only [insert, h, Bool.false_eq_true, dite_false, List.mem_append, List.mem_singleton]
    constructor
    · rintro (hold | rfl)
      · exact .inr ⟨hold, hnew entry hold⟩
      · exact .inl rfl
    · rintro (rfl | ⟨hold, -⟩)
      · exact .inr rfl
      · exact .inl hold

end Dictionary

end ClusterCost
