import ClusterCost.Proofs.Dictionary
import ClusterCost.Settings.Basic
import Mathlib.Data.List.TakeWhile

/-!
# What a layer has for a name

A layer has for a name the last value that its source gives under this name, in any case
(`get?_layer`); so has the layer of an environment, for the name behind the mark
(`get?_environment_layer`). This is so unless a key of the source leads into the name,
as `a.b` leads into `a`.
-/

namespace ClusterCost

namespace SettingKey

variable {α β : Type} {entries : List (String × α)} {key name : String} {a : α}

/-! ### Values under a name in any case -/

/-- The value under a name that may be written in any case. The last one counts. -/
def valueUnder (entries : List (String × α)) (name : String) : Option α :=
  lastValue (entries.map fun entry => (fold entry.1, entry.2)) name

@[simp] lemma toList_fold (key : String) : (fold key).toList = key.toList.map Char.toLower :=
  String.toList_ofList

lemma toLower_toLower (c : Char) : c.toLower.toLower = c.toLower := by
  by_cases h : c.val ≥ 'A'.val ∧ c.val ≤ 'Z'.val
  · have hlower : c.toLower = ⟨c.val + ('a'.val - 'A'.val), _⟩ := dif_pos h
    refine dif_neg ?_
    rw [hlower]
    grind [UInt32.toNat_add, UInt32.le_iff_toNat_le]
  · have hlower : c.toLower = c := dif_neg h
    rw [hlower, hlower]

@[simp] lemma fold_fold (key : String) : fold (fold key) = fold key := by
  rw [← String.toList_inj, toList_fold, toList_fold, List.map_map]
  exact List.map_congr_left fun c _ => toLower_toLower c

@[simp] lemma valueUnder_nil (name : String) : valueUnder ([] : List (String × α)) name = none :=
  rfl

lemma valueUnder_cons (entry : String × α) (entries : List (String × α)) (name : String) :
    valueUnder (entry :: entries) name =
      (valueUnder entries name).or (if name = fold entry.1 then some entry.2 else none) := by
  simp only [valueUnder, List.map_cons, lastValue_cons, beq_iff_eq]

/-! ### Keys of layers -/

/-- A key in lower case that has no way into a compound setting. -/
lemma compound?_eq_none (h : ∀ c ∈ key.toList, isPart c = true) : compound? key = none := by
  have hway : key.toList.dropWhile isPart = [] := List.dropWhile_eq_nil_iff.mpr h
  simp [compound?, hway]

/-- The entry of a key has a name just if the key is the name in some case, unless it
leads into the name. -/
lemma entry_for_name {s : Setting} (hname : compound? name = none)
    (hkey : compound? (fold key) ≠ some name) :
    (if name = (Setting.entry key s).1 then some (Setting.entry key s).2 else none) =
      if name = fold key then some s else none := by
  cases hfold : compound? (fold key) with
  | none => simp only [Setting.entry, hfold]
  | some front =>
    rw [hfold, ne_eq, Option.some.injEq, eq_comm] at hkey
    -- A key that leads into something is no name itself.
    have hne : name ≠ fold key := by
      rintro rfl
      rw [hfold] at hname
      cases hname
    simp only [Setting.entry, hfold, if_neg hkey, if_neg hne]

theorem get?_layer {entries : List (String × Setting)} (hname : compound? name = none)
    (hkeys : ∀ entry ∈ entries, compound? (fold entry.1) ≠ some name) :
    (Setting.layer entries).get? name = valueUnder entries name := by
  rw [Setting.layer, Dictionary.get?_ofList]
  induction entries with
  | nil => rfl
  | cons entry rest ih =>
    obtain ⟨hkey, hrest⟩ := List.forall_mem_cons.mp hkeys
    rw [List.map_cons, lastValue_cons, valueUnder_cons, ih hrest]
    simp only [beq_iff_eq, entry_for_name hname hkey]

/-! ### Environments -/

/-- A name that begins with the mark is the mark and what stands behind it. -/
lemma startsWith_mark_iff :
    key.startsWith Environment.mark = true ↔ ∃ rest, key = Environment.mark ++ rest := by
  rw [String.startsWith_string_iff]
  constructor
  · rintro ⟨rest, hrest⟩
    exact ⟨String.ofList rest,
      by rw [← String.toList_inj, String.toList_append, String.toList_ofList, hrest]⟩
  · rintro ⟨rest, rfl⟩
    exact ⟨rest.toList, String.toList_append.symm⟩

lemma drop_mark (rest : String) :
    String.ofList ((Environment.mark ++ rest).toList.drop Environment.mark.length) = rest := by
  rw [String.toList_append, ← String.length_toList, List.drop_left, String.ofList_toList]

lemma mark_append_inj {rest : String} :
    Environment.mark ++ name = Environment.mark ++ rest ↔ name = rest := by
  rw [← String.toList_inj, String.toList_append, String.toList_append, List.append_right_inj,
    String.toList_inj]

/-- What stands behind the mark of a name in lower case is in lower case. -/
lemma fold_behind_mark {rest : String} (h : fold key = Environment.mark ++ rest) :
    fold rest = rest := by
  have hfold := congrArg fold h
  rw [fold_fold, h, ← String.toList_inj, toList_fold, String.toList_append, List.map_append, show
    Environment.mark.toList.map Char.toLower = Environment.mark.toList from by
    decide, List.append_right_inj] at hfold
  rw [← String.toList_inj, toList_fold, ← hfold]

theorem get?_environment_layer {environment : Dictionary String} (hname : compound? name = none)
    (hkeys : ∀ entry ∈ environment.entries, ∀ rest, fold entry.1 = Environment.mark ++ rest →
      compound? rest ≠ some name) :
    (Environment.layer environment).get? name =
      (valueUnder environment.entries (Environment.mark ++ name)).map Setting.ofVariable := by
  rw [Environment.layer, get?_layer hname]
  -- The keys of the layer are in lower case already, so that folding them again does
  -- not change them.
  · generalize environment.entries = entries
    induction entries with
    | nil => rfl
    | cons entry rest ih =>
      rw [List.filterMap_cons, valueUnder_cons]
      by_cases hmark : ∃ behind, fold entry.1 = Environment.mark ++ behind
      · obtain ⟨behind, hbehind⟩ := hmark
        simp only [hbehind, startsWith_mark_iff.mpr ⟨behind, rfl⟩, if_true, drop_mark,
          valueUnder_cons, fold_behind_mark hbehind, ih, mark_append_inj]
        cases valueUnder rest (Environment.mark ++ name) <;> simp [apply_ite]
      · have hne : Environment.mark ++ name ≠ fold entry.1 := fun h => hmark ⟨name, h.symm⟩
        simp only [if_neg (startsWith_mark_iff.not.mpr hmark), ih, if_neg hne, Option.or_none]
  · intro entry hentry
    obtain ⟨given, hgiven, hentry⟩ := List.mem_filterMap.mp hentry
    obtain ⟨hmark, hentry⟩ := Option.ite_none_right_eq_some.mp hentry
    obtain ⟨behind, hbehind⟩ := startsWith_mark_iff.mp hmark
    rw [hbehind, drop_mark, Option.some.injEq] at hentry
    rw [← hentry, fold_behind_mark hbehind]
    exact hkeys given hgiven behind hbehind

end SettingKey

end ClusterCost
