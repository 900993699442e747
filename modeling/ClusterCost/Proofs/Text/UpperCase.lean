import ClusterCost.Text.UpperCase
import Mathlib.Data.Bool.AllAny
import Mathlib.Tactic.Common

/-!
# Characters whose upper case is a capital

A capital of ASCII is the upper case of itself, of its small letter and, for two of the capitals, of
one letter outside ASCII (`ofChar_eq_singleton_iff`). Of a text in capitalized form, all but its
first character is known, unless that form starts with the upper case of a character that has
several (`capitalize_eq_iff`).
-/

namespace ClusterCost.UpperCase

/-- A character stands for a capital: it is the letter in upper or lower case, or the long s for
`S`, or the dotless i for `I`. -/
def StandsFor (c l : Char) : Prop :=
  c = l ∨ c = l.toLower ∨ (c = 'ſ' ∧ l = 'S') ∨ (c = 'ı' ∧ l = 'I')

variable {c l : Char} {code : Nat}

/-! ### The tables -/

lemma lookup_expansions (h : code < 0xDF) : expansions.lookup code = none := by
  have hkeys : ∀ e ∈ expansions, 0xDF ≤ e.1 := List.all_iff_forall_prop.mp (by decide)
  rw [List.lookup_eq_none_iff]
  intro e he
  have hkey := hkeys e he
  rw [bne_iff_ne]
  omega

lemma mem_of_lookup_expansions {codes : List Nat} (h : expansions.lookup code = some codes) :
    (code, codes) ∈ expansions := by
  obtain ⟨before, after, htable, -⟩ := List.lookup_eq_some_iff.mp h
  rw [htable]
  exact List.mem_append_right _ List.mem_cons_self

/-- No upper case of several characters is one character. -/
lemma two_le_length_expansion : ∀ e ∈ expansions, 2 ≤ e.2.length :=
  List.all_iff_forall_prop.mp (by decide)

lemma find?_runs (h : code < 0x61) : runs.find? (·.holds code) = none := by
  have hfirst : ∀ r ∈ runs, 0x61 ≤ r.first := List.all_iff_forall_prop.mp (by decide)
  rw [List.find?_eq_none]
  intro r hr hholds
  have hle := hfirst r hr
  simp only [Run.holds, Bool.and_eq_true, decide_eq_true_eq] at hholds
  omega

/-- Only three runs have capitals of ASCII as upper cases. -/
lemma runs_of_upper_le : ∀ r ∈ runs, r.upper ≤ 0x5A →
    (r.first = 0x61 ∧ r.upper = 0x41) ∨ (r.first = 0x131 ∧ r.last = 0x131 ∧ r.upper = 0x49) ∨
      (r.first = 0x17F ∧ r.last = 0x17F ∧ r.upper = 0x53) :=
  List.all_iff_forall_prop.mp (by decide)

/-! ### Capitals -/

lemma isUpper_iff : l.isUpper = true ↔ 0x41 ≤ l.toNat ∧ l.toNat ≤ 0x5A := by
  show decide (l.val ≥ 'A'.val ∧ l.val ≤ 'Z'.val) = true ↔ _
  simp [UInt32.le_iff_toNat_le]

lemma toNat_toLower (h : l.isUpper) : l.toLower.toNat = l.toNat + 0x20 := by
  have hcode := (isUpper_iff.mp h).2
  have hcapital : l.val ≥ 'A'.val ∧ l.val ≤ 'Z'.val := by rwa [isUpper_iff] at h
  have hlower : l.toLower = ⟨l.val + ('a'.val - 'A'.val), _⟩ := dif_pos hcapital
  rw [hlower]
  show (l.val + 0x20).toNat = l.toNat + 0x20
  rw [UInt32.toNat_add]
  exact Nat.mod_eq_of_lt (Nat.lt_of_le_of_lt (Nat.add_le_add_right hcode 0x20) (by decide))

lemma ofChar_of_isUpper (h : l.isUpper) : ofChar l = [l] := by
  have hcode := (isUpper_iff.mp h).2
  rw [ofChar, lookup_expansions (by omega), find?_runs (by omega)]

lemma ofChar_toLower (h : l.isUpper) : ofChar l.toLower = [l] := by
  have hcode := toNat_toLower h
  obtain ⟨hlow, hhigh⟩ := isUpper_iff.mp h
  have hholds : Run.holds ⟨0x61, 0x7A, 1, 0x41⟩ l.toLower.toNat = true := by
    simp only [Run.holds, Nat.mod_one, beq_self_eq_true, Bool.and_true, Bool.and_eq_true,
      decide_eq_true_eq]
    omega
  have hfind : runs.find? (·.holds l.toLower.toNat) = some ⟨0x61, 0x7A, 1, 0x41⟩ :=
    List.find?_cons_of_pos hholds
  have hupper : 0x41 + (l.toLower.toNat - 0x61) = l.toNat := by omega
  rw [ofChar, lookup_expansions (by omega), hfind]
  simp only [hupper, Char.ofNat_toNat]

/-- The number of a character, unless it is a number of none. -/
lemma eq_toNat_of_ofNat {n : Nat} (h : Char.ofNat n = l) (hl : l.toNat ≠ 0) : n = l.toNat := by
  subst h
  by_cases hvalid : n.isValidChar
  · rw [Char.ofNat, dif_pos hvalid]
    rfl
  · rw [Char.ofNat, dif_neg hvalid] at hl
    exact absurd rfl hl

/-- A run that leads to a capital leads there from its small letter, from the long s or
from the dotless i. -/
lemma standsFor_of_holds {r : Run} (hr : r ∈ runs) (hholds : r.holds c.toNat = true) (h : l.isUpper)
    (hupper : Char.ofNat (r.upper + (c.toNat - r.first)) = l) : StandsFor c l := by
  have hlower := toNat_toLower h
  obtain ⟨hlow, hhigh⟩ := isUpper_iff.mp h
  have hcode := eq_toNat_of_ofNat hupper (by omega)
  simp only [Run.holds, Bool.and_eq_true, decide_eq_true_eq] at hholds
  rcases runs_of_upper_le r hr (by omega) with ⟨hfirst, hto⟩ | ⟨hfirst, hlast, hto⟩ |
    ⟨hfirst, hlast, hto⟩
  · exact .inr (.inl (Char.toNat_inj.mp (by omega)))
  · have hc : c.toNat = 'ı'.toNat := by
      show c.toNat = 0x131
      omega
    have hl : l.toNat = 'I'.toNat := by
      show l.toNat = 0x49
      omega
    exact .inr (.inr (.inr ⟨Char.toNat_inj.mp hc, Char.toNat_inj.mp hl⟩))
  · have hc : c.toNat = 'ſ'.toNat := by
      show c.toNat = 0x17F
      omega
    have hl : l.toNat = 'S'.toNat := by
      show l.toNat = 0x53
      omega
    exact .inr (.inr (.inl ⟨Char.toNat_inj.mp hc, Char.toNat_inj.mp hl⟩))

/-- The characters whose upper case is a capital of ASCII. -/
theorem ofChar_eq_singleton_iff (h : l.isUpper) : ofChar c = [l] ↔ StandsFor c l := by
  constructor
  · intro hc
    rw [ofChar] at hc
    split at hc
    · rename_i codes hlookup
      have hlength := two_le_length_expansion _ (mem_of_lookup_expansions hlookup)
      rw [← List.length_map (f := Char.ofNat), hc, List.length_singleton] at hlength
      omega
    · split at hc
      · rename_i r hfind
        have hholds : r.holds c.toNat = true := by simpa using List.find?_some hfind
        exact standsFor_of_holds (List.mem_of_find?_eq_some hfind) hholds h
          (List.singleton_inj.mp hc)
      · exact .inl (List.singleton_inj.mp hc)
  · rintro (rfl | rfl | ⟨rfl, rfl⟩ | ⟨rfl, rfl⟩)
    · exact ofChar_of_isUpper h
    · exact ofChar_toLower h
    · decide
    · decide

/-! ### Texts -/

/-- A capitalized text starts with the upper case of one character, which is one capital or
has several characters. -/
lemma capitalize_eq_iff {s t : String} {tail : List Char} (ht : t.toList = l :: tail)
    (hl : l.isUpper) (hexpands : ∀ e ∈ expansions, ¬ e.2.map Char.ofNat <+: t.toList) :
    capitalize s = t ↔ ∃ c, s.toList = c :: tail ∧ StandsFor c l := by
  rw [← String.toList_inj, ht]
  constructor
  · intro heq
    rw [capitalize] at heq
    split at heq
    · cases heq
    · rename_i c rest hs
      rw [String.toList_ofList] at heq
      obtain ⟨u, hu⟩ : ∃ u, ofChar c = [u] := by
        rw [ofChar] at heq ⊢
        split at heq
        · rename_i codes hlookup
          exact absurd ⟨rest, heq.trans ht.symm⟩ (hexpands _ (mem_of_lookup_expansions hlookup))
        · split <;> exact ⟨_, rfl⟩
      rw [hu, List.singleton_append, List.cons.injEq] at heq
      obtain ⟨rfl, rfl⟩ := heq
      exact ⟨c, hs, (ofChar_eq_singleton_iff hl).mp hu⟩
  · rintro ⟨c, hs, hc⟩
    rw [capitalize, hs]
    simp only [String.toList_ofList, (ofChar_eq_singleton_iff hl).mpr hc, List.singleton_append]

end ClusterCost.UpperCase
