import ClusterCost.Proofs.Text.Utf8
import Mathlib.Data.String.Basic

/-!
# The order of texts

Texts are in the order of their characters, and that is the order of their UTF-8 bytes
(`encode_lt_encode_iff`).
-/

namespace ClusterCost.Utf8

open String (utf8EncodeChar)

/-- The bytes of the lesser character are less, whatever follows them. -/
lemma encodeChar_append_lt {c d : Char} (h : c < d) (x y : Bytes) :
    utf8EncodeChar c ++ x < utf8EncodeChar d ++ y := by
  have hlt : c.val.toNat < d.val.toNat := h
  have hd : d.val.toNat < 0xD800 ∨ 0xDFFF < d.val.toNat ∧ d.val.toNat < 0x110000 := d.valid
  generalize hv : c.val.toNat = v at hlt
  generalize hw : d.val.toNat = w at hlt hd
  -- The digits of a code point to the base 64.
  have hthird : ∀ n : Nat, n / 4096 = n / 64 / 64 := by omega
  have hfourth : ∀ n : Nat, n / 262144 = n / 64 / 64 / 64 := by omega
  rw [utf8EncodeChar, utf8EncodeChar]
  simp only [hv, hw, hthird, hfourth]
  -- One case for each pair of lengths. Bytes of the same length are compared from the first,
  -- which has the highest bits.
  split_ifs
  all_goals
    simp only [List.cons_append, List.nil_append, List.cons_lt_cons_iff,
      UInt8.lt_iff_toNat_lt, ← UInt8.toNat_inj, UInt8.toNat_ofNat']
    first
    | exact .inl (by omega)
    | by_cases hmore : x < y <;> simp only [hmore, and_true, and_false, or_false] <;> omega

lemma flatMap_encodeChar_lt {cs ds : List Char} (h : cs < ds) :
    cs.flatMap utf8EncodeChar < ds.flatMap utf8EncodeChar := by
  induction cs generalizing ds with
  | nil =>
    cases ds with
    | nil => exact absurd h (lt_irrefl _)
    | cons d ds =>
      obtain ⟨b, more, hb, -⟩ := lead_encodeChar d []
      rw [List.flatMap_cons, hb]
      exact List.nil_lt_cons _ _
  | cons c cs ih =>
    cases ds with
    | nil => exact absurd h (List.not_lt_nil _)
    | cons d ds =>
      rw [List.flatMap_cons, List.flatMap_cons]
      rcases List.cons_lt_cons_iff.mp h with hlt | ⟨rfl, hrest⟩
      · exact encodeChar_append_lt hlt _ _
      · exact List.append_left_lt (ih hrest)

/-- Texts are in the order of their bytes. -/
theorem encode_lt_encode_iff {s t : String} : encode s < encode t ↔ s < t := by
  have hmono : ∀ {s t : String}, s < t → encode s < encode t := by
    intro s t h
    rw [encode_eq_flatMap, encode_eq_flatMap]
    exact flatMap_encodeChar_lt (String.lt_iff_toList_lt.mp h)
  refine ⟨fun h => ?_, hmono⟩
  rcases lt_trichotomy s t with hlt | rfl | hgt
  · exact hlt
  · exact absurd h (List.lt_irrefl _)
  · exact absurd h (List.lt_asymm (hmono hgt))

lemma encode_le_encode_iff {s t : String} : encode s ≤ encode t ↔ s ≤ t := by
  rw [← List.not_lt, encode_lt_encode_iff, not_lt]

end ClusterCost.Utf8
