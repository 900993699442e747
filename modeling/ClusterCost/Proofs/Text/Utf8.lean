import ClusterCost.Text.Utf8
import Mathlib.Data.List.Basic
import Mathlib.Tactic.Common

/-!
# Laws of UTF-8

Decoding gives back the text that was encoded (`decode?_encode`, `decodeLossy_encode`), and the
first bytes of an encoded text are those of its first character (`lead_encodeChar`). No other bytes
are read as this character (`encodeChar_of_lead`).
-/

namespace ClusterCost.Utf8

open String (utf8EncodeChar)

/-! ### Encoding -/

lemma encode_ofList (cs : List Char) : encode (String.ofList cs) = cs.flatMap utf8EncodeChar := by
  simp [encode, List.utf8Encode]

lemma encode_eq_flatMap (s : String) : encode s = s.toList.flatMap utf8EncodeChar := by
  rw [← encode_ofList, String.ofList_toList]

lemma encode_append (s t : String) : encode (s ++ t) = encode s ++ encode t := by
  simp [encode_eq_flatMap, String.toList_append]

theorem decode?_encode (s : String) : decode? (encode s) = some s := by
  have hbytes : (⟨(encode s).toArray⟩ : ByteArray) = s.toByteArray := by
    simp [encode]
  rw [decode?, hbytes, String.fromUTF8?, dif_pos s.isValidUTF8]
  rfl

lemma encode_of_decode? {bytes : Bytes} {s : String} (h : decode? bytes = some s) :
    encode s = bytes := by
  rw [decode?, String.fromUTF8?] at h
  split_ifs at h
  cases h
  simp [encode, String.fromUTF8]

/-- A character of ASCII is one byte, and any other has none of the bytes of ASCII. -/
lemma encodeChar_cases (c : Char) :
    (c.toNat < 0x80 ∧ utf8EncodeChar c = [UInt8.ofNat c.toNat]) ∨
      (0x80 ≤ c.toNat ∧ ∀ b ∈ utf8EncodeChar c, 0x80 ≤ b.toNat) := by
  show (c.val.toNat < 0x80 ∧ _) ∨ (0x80 ≤ c.val.toNat ∧ _)
  rw [utf8EncodeChar]
  split_ifs with h1 h2 h3
  · exact .inl ⟨by omega, rfl⟩
  all_goals
    refine .inr ⟨by omega, ?_⟩
    simp only [List.mem_cons, List.not_mem_nil, or_false, forall_eq_or_imp, forall_eq,
      UInt8.toNat_ofNat']
    omega

/-- A text of ASCII has one byte for each character. -/
lemma encode_ascii {cs : List Char} (h : ∀ c ∈ cs, c.toNat < 0x80) :
    encode (String.ofList cs) = cs.map fun c => UInt8.ofNat c.toNat := by
  rw [encode_ofList, List.map_eq_flatMap]
  apply List.flatMap_congr
  intro c hc
  rcases encodeChar_cases c with ⟨-, heq⟩ | ⟨hge, -⟩
  · exact heq
  · exact absurd (h c hc) (Nat.not_lt.mpr hge)

/-- A byte that is none of ASCII is not this one of ASCII. -/
lemma beq_eq_false_of_ge {b : UInt8} (h : 0x80 ≤ b.toNat) (k : UInt8)
    (hk : k.toNat < 0x80 := by decide) : (b == k) = false := by
  rw [beq_eq_false_iff_ne]
  rintro rfl
  omega

/-- Such a byte is no control character. -/
lemma not_control_of_ge {b : UInt8} (h : 0x80 ≤ b.toNat) : ¬ b < 0x20 := by
  rw [UInt8.lt_iff_toNat_lt]
  show ¬ b.toNat < 32
  omega

/-! ### Reading one character -/

lemma toNat_ofNat {n : Nat} (h : n < 256) : (UInt8.ofNat n).toNat = n := by
  simpa using h

/-- The low bits of a byte. -/
lemma payload_eq {mask : UInt8} {k : Nat} (hmask : mask.toNat = Nat.pow 2 k - 1) (b : UInt8) :
    payload mask b = b.toNat % Nat.pow 2 k := by
  rw [payload, UInt8.toNat_and, hmask]
  exact Nat.and_two_pow_sub_one_eq_mod _ k

lemma payload_six (b : UInt8) : payload 0x3F b = b.toNat % 64 := payload_eq (k := 6) rfl b

lemma payload_five (b : UInt8) : payload 0x1F b = b.toNat % 32 := payload_eq (k := 5) rfl b

lemma payload_four (b : UInt8) : payload 0x0F b = b.toNat % 16 := payload_eq (k := 4) rfl b

lemma payload_three (b : UInt8) : payload 0x07 b = b.toNat % 8 := payload_eq (k := 3) rfl b

lemma lengthOf_one {b : UInt8} (h : b.toNat < 0x80) : lengthOf b = 1 := by
  rw [lengthOf, if_pos (UInt8.lt_iff_toNat_lt.mpr h)]

/-- The number of bytes of a character that is not ASCII, by the value of its first byte. -/
lemma lengthOf_eq {b : UInt8} {n : Nat}
    (h : (n = 2 ∧ 0xC2 ≤ b.toNat ∧ b.toNat ≤ 0xDF) ∨ (n = 3 ∧ 0xE0 ≤ b.toNat ∧ b.toNat ≤ 0xEF) ∨
      (n = 4 ∧ 0xF0 ≤ b.toNat ∧ b.toNat ≤ 0xF4)) : lengthOf b = n := by
  have hascii : ¬ b < 0x80 := by
    rw [UInt8.lt_iff_toNat_lt]
    show ¬ b.toNat < 128
    omega
  rw [lengthOf, if_neg hascii]
  simp only [UInt8.le_iff_toNat_le, UInt8.reduceToNat, Bool.and_eq_true, decide_eq_true_eq]
  split_ifs <;> omega

/-- A byte may follow the first byte of a character if it may continue one and the character is then
neither overlong nor a surrogate nor past the last. -/
lemma within_secondByteBounds {lead second : UInt8} (hlow : 0x80 ≤ second.toNat)
    (hhigh : second.toNat ≤ 0xBF)
    (hE0 : lead.toNat = 0xE0 → 0xA0 ≤ second.toNat) (hED : lead.toNat = 0xED → second.toNat ≤ 0x9F)
    (hF0 : lead.toNat = 0xF0 → 0x90 ≤ second.toNat)
    (hF4 : lead.toNat = 0xF4 → second.toNat ≤ 0x8F) :
    (decide ((secondByteBounds lead).1 ≤ second) && decide (second ≤ (secondByteBounds lead).2)) =
      true := by
  simp only [secondByteBounds, beq_iff_eq, ← UInt8.toNat_inj, UInt8.le_iff_toNat_le,
    UInt8.reduceToNat]
  split_ifs with h1 h2 h3 h4 <;> simp only [Bool.and_eq_true, decide_eq_true_eq,
    UInt8.reduceToNat] <;> omega

/-- A byte that continues a character gives it six bits more. -/
lemma continueChar_cons {b : UInt8} (hlow : 0x80 ≤ b.toNat) (hhigh : b.toNat ≤ 0xBF)
    (code length wanted : Nat) (rest : Bytes) :
    continueChar code length (wanted + 1) (b :: rest) =
      continueChar (code * 64 + b.toNat % 64) (length + 1) wanted rest := by
  have hcont : isContinuation b = true := by
    simp only [isContinuation, UInt8.le_iff_toNat_le, UInt8.reduceToNat, Bool.and_eq_true,
      decide_eq_true_eq]
    exact ⟨hlow, hhigh⟩
  rw [continueChar, if_pos hcont, payload_six]

/-- The first bytes of an encoded text are those of its first character. -/
theorem lead_encodeChar (c : Char) (rest : Bytes) :
    ∃ b more, utf8EncodeChar c = b :: more ∧ lead b (more ++ rest) = .char c (more.length + 1) := by
  have hvalid : c.val.toNat < 0xD800 ∨ 0xDFFF < c.val.toNat ∧ c.val.toNat < 0x110000 := c.valid
  have hchar : Char.ofNat c.val.toNat = c := Char.ofNat_toNat c
  generalize hv : c.val.toNat = v at hvalid hchar
  rw [utf8EncodeChar]
  simp only [hv]
  -- One case for each number of bytes; `omega` puts the code point together again from
  -- their low bits.
  split_ifs with h1 h2 h3
  · have hb : (UInt8.ofNat v).toNat = v := toNat_ofNat (by omega)
    refine ⟨_, _, rfl, ?_⟩
    rw [lead, lengthOf_one (by omega)]
    simp only [hb, hchar, List.length_nil]
  · have hb : (UInt8.ofNat (v / 64 % 32 + 192)).toNat = v / 64 % 32 + 192 := toNat_ofNat (by omega)
    have h₂ : (UInt8.ofNat (v % 64 + 128)).toNat = v % 64 + 128 := toNat_ofNat (by omega)
    refine ⟨_, _, rfl, ?_⟩
    rw [lead, lengthOf_eq (n := 2) (by omega)]
    simp only [List.cons_append]
    rw [if_pos (within_secondByteBounds (by omega) (by omega) (by omega) (by omega) (by omega)
      (by omega))]
    simp only [continueChar, payload_five, payload_six, hb, h₂]
    have hcode : (v / 64 % 32 + 192) % 32 * 64 + (v % 64 + 128) % 64 = v := by omega
    rw [hcode, hchar]
    rfl
  · have hb : (UInt8.ofNat (v / 4096 % 16 + 224)).toNat = v / 4096 % 16 + 224 :=
      toNat_ofNat (by omega)
    have h₂ : (UInt8.ofNat (v / 64 % 64 + 128)).toNat = v / 64 % 64 + 128 := toNat_ofNat (by omega)
    have h₃ : (UInt8.ofNat (v % 64 + 128)).toNat = v % 64 + 128 := toNat_ofNat (by omega)
    refine ⟨_, _, rfl, ?_⟩
    rw [lead, lengthOf_eq (n := 3) (by omega)]
    simp only [List.cons_append]
    rw [if_pos (within_secondByteBounds (by omega) (by omega) (by omega) (by omega) (by omega)
      (by omega))]
    rw [continueChar_cons (by omega) (by omega)]
    simp only [continueChar, payload_four, payload_six, hb, h₂, h₃]
    have hcode :
        ((v / 4096 % 16 + 224) % 16 * 64 + (v / 64 % 64 + 128) % 64) * 64 + (v % 64 + 128) % 64 =
          v := by
      omega
    rw [hcode, hchar]
    rfl
  · have hb : (UInt8.ofNat (v / 262144 % 8 + 240)).toNat = v / 262144 % 8 + 240 :=
      toNat_ofNat (by omega)
    have h₂ : (UInt8.ofNat (v / 4096 % 64 + 128)).toNat = v / 4096 % 64 + 128 :=
      toNat_ofNat (by omega)
    have h₃ : (UInt8.ofNat (v / 64 % 64 + 128)).toNat = v / 64 % 64 + 128 := toNat_ofNat (by omega)
    have h₄ : (UInt8.ofNat (v % 64 + 128)).toNat = v % 64 + 128 := toNat_ofNat (by omega)
    refine ⟨_, _, rfl, ?_⟩
    rw [lead, lengthOf_eq (n := 4) (by omega)]
    simp only [List.cons_append]
    rw [if_pos (within_secondByteBounds (by omega) (by omega) (by omega) (by omega) (by omega)
      (by omega))]
    rw [continueChar_cons (by omega) (by omega), continueChar_cons (by omega) (by omega)]
    simp only [continueChar, payload_three, payload_six, hb, h₂, h₃, h₄]
    have hcode :
        (((v / 262144 % 8 + 240) % 8 * 64 + (v / 4096 % 64 + 128) % 64) * 64 +
           (v / 64 % 64 + 128) % 64) *
          64 +
        (v % 64 + 128) % 64 = v := by omega
    rw [hcode, hchar]
    rfl

/-! ### Reading any bytes -/

/-- The bytes that belong to the last character are passed over. -/
lemma decodeLossyFrom_skip (seen : List Char) (more rest : Bytes) :
    decodeLossyFrom seen more.length (more ++ rest) = decodeLossyFrom seen 0 rest := by
  induction more with
  | nil => rfl
  | cons b more ih => exact ih

lemma decodeLossyFrom_encode (seen cs : List Char) :
    decodeLossyFrom seen 0 (cs.flatMap utf8EncodeChar) = seen.reverse ++ cs := by
  induction cs generalizing seen with
  | nil => exact (List.append_nil _).symm
  | cons c cs ih =>
    obtain ⟨b, more, hchar, hlead⟩ := lead_encodeChar c (cs.flatMap utf8EncodeChar)
    rw [List.flatMap_cons, hchar, List.cons_append, decodeLossyFrom]
    simp only [hlead, Nat.add_sub_cancel]
    rw [decodeLossyFrom_skip, ih, List.reverse_cons, List.append_assoc, List.singleton_append]

/-- A text that was encoded has no broken characters. -/
theorem decodeLossy_encode (s : String) : decodeLossy (encode s) = s := by
  rw [decodeLossy, encode_eq_flatMap, decodeLossyFrom_encode, List.reverse_nil, List.nil_append,
    String.ofList_toList]
/-! ### What was read -/

/-- The first byte of a character says how many bytes it has. -/
lemma lengthOf_cases (b : UInt8) :
    lengthOf b = 0 ∨ (lengthOf b = 1 ∧ b.toNat < 0x80) ∨
    (lengthOf b = 2 ∧ 0xC2 ≤ b.toNat ∧ b.toNat ≤ 0xDF) ∨
      (lengthOf b = 3 ∧ 0xE0 ≤ b.toNat ∧ b.toNat ≤ 0xEF) ∨
      (lengthOf b = 4 ∧ 0xF0 ≤ b.toNat ∧ b.toNat ≤ 0xF4) := by
  rw [lengthOf]
  simp only [UInt8.lt_iff_toNat_lt, UInt8.le_iff_toNat_le, UInt8.reduceToNat, Bool.and_eq_true,
    decide_eq_true_eq]
  split_ifs <;> omega

lemma of_within_secondByteBounds {lead second : UInt8}
    (h : (decide ((secondByteBounds lead).1 ≤ second) &&
      decide (second ≤ (secondByteBounds lead).2)) = true) :
    0x80 ≤ second.toNat ∧ second.toNat ≤ 0xBF ∧ (lead.toNat = 0xE0 → 0xA0 ≤ second.toNat) ∧
      (lead.toNat = 0xED → second.toNat ≤ 0x9F) ∧ (lead.toNat = 0xF0 → 0x90 ≤ second.toNat) ∧
      (lead.toNat = 0xF4 → second.toNat ≤ 0x8F) := by
  simp only [secondByteBounds, beq_iff_eq, ← UInt8.toNat_inj, UInt8.le_iff_toNat_le,
    UInt8.reduceToNat] at h
  split_ifs at h <;> simp only [Bool.and_eq_true, decide_eq_true_eq, UInt8.reduceToNat] at h <;>
    omega

/-- A byte after the second one is read if it continues the character. -/
lemma continueChar_succ {code length wanted n : Nat} {bytes : Bytes} {c : Char}
    (h : continueChar code length (wanted + 1) bytes = .char c n) :
    ∃ b rest, bytes = b :: rest ∧ 0x80 ≤ b.toNat ∧ b.toNat ≤ 0xBF ∧
      continueChar (code * 64 + b.toNat % 64) (length + 1) wanted rest = .char c n := by
  cases bytes with
  | nil => cases h
  | cons b rest =>
    rw [continueChar] at h
    split_ifs at h with hcont
    simp only [isContinuation, UInt8.le_iff_toNat_le, UInt8.reduceToNat, Bool.and_eq_true,
      decide_eq_true_eq] at hcont
    exact ⟨b, rest, rfl, hcont.1, hcont.2, payload_six b ▸ h⟩

lemma toNat_charOfNat {v : Nat} (h : v < 0xD800 ∨ 0xDFFF < v ∧ v < 0x110000) :
    (Char.ofNat v).val.toNat = v := by
  rw [Char.ofNat, dif_pos h]
  rfl

lemma ofNat_eq {b : UInt8} {n : Nat} (h : n = b.toNat) : UInt8.ofNat n = b := by
  rw [h, UInt8.ofNat_toNat]

/-- The bytes that are read as a character are its encoding. -/
theorem encodeChar_of_lead {b : UInt8} {rest : Bytes} {c : Char} {n : Nat}
    (h : lead b rest = .char c n) :
    ∃ more tail, utf8EncodeChar c = b :: more ∧ rest = more ++ tail ∧ n = more.length + 1 := by
  rw [lead] at h
  rcases lengthOf_cases b with hn | ⟨hn, hb⟩ | ⟨hn, hb, hb'⟩ | ⟨hn, hb, hb'⟩ | ⟨hn, hb, hb'⟩ <;>
    rw [hn] at h <;> simp only at h
  · cases h
  · cases h
    refine ⟨[], rest, ?_, rfl, rfl⟩
    rw [utf8EncodeChar]
    simp only [toNat_charOfNat (.inl (by omega : b.toNat < 0xD800))]
    rw [if_pos (by omega), ofNat_eq rfl]
  all_goals
    obtain ⟨second, rest, rfl⟩ := List.exists_cons_of_ne_nil (l := rest) (by rintro rfl; cases h)
    simp only [ite_eq_iff, reduceCtorEq, and_false, or_false] at h
    obtain ⟨hwithin, h⟩ := h
    obtain ⟨hlow, hhigh, hE0, hED, hF0, hF4⟩ := of_within_secondByteBounds hwithin
    simp only [payload_five, payload_four, payload_three, payload_six] at h
  · cases h
    refine ⟨[second], rest, ?_, rfl, rfl⟩
    rw [utf8EncodeChar]
    simp only [toNat_charOfNat (.inl (by omega : b.toNat % 32 * 64 + second.toNat % 64 < 0xD800))]
    rw [if_neg (by omega), if_pos (by omega), ofNat_eq (b := b) (by omega),
      ofNat_eq (b := second) (by omega)]
  · obtain ⟨third, rest, rfl, hlow₃, hhigh₃, h⟩ := continueChar_succ h
    cases h
    refine ⟨[second, third], rest, ?_, rfl, rfl⟩
    rw [utf8EncodeChar]
    simp only [toNat_charOfNat (by omega :
      (b.toNat % 16 * 64 + second.toNat % 64) * 64 + third.toNat % 64 < 0xD800 ∨
      0xDFFF < (b.toNat % 16 * 64 + second.toNat % 64) * 64 + third.toNat % 64 ∧
      (b.toNat % 16 * 64 + second.toNat % 64) * 64 + third.toNat % 64 < 0x110000)]
    rw [if_neg (by omega), if_neg (by omega), if_pos (by omega), ofNat_eq (b := b) (by omega),
      ofNat_eq (b := second) (by omega), ofNat_eq (b := third) (by omega)]
  · obtain ⟨third, rest, rfl, hlow₃, hhigh₃, h⟩ := continueChar_succ h
    obtain ⟨fourth, rest, rfl, hlow₄, hhigh₄, h⟩ := continueChar_succ h
    cases h
    refine ⟨[second, third, fourth], rest, ?_, rfl, rfl⟩
    rw [utf8EncodeChar]
    simp only [toNat_charOfNat (by omega :
      ((b.toNat % 8 * 64 + second.toNat % 64) * 64 + third.toNat % 64) * 64 + fourth.toNat %
      64 < 0xD800 ∨
      0xDFFF <
        ((b.toNat % 8 * 64 + second.toNat % 64) * 64 + third.toNat % 64) * 64 + fourth.toNat % 64 ∧
      ((b.toNat % 8 * 64 + second.toNat % 64) * 64 + third.toNat % 64) * 64 + fourth.toNat %
      64 < 0x110000)]
    rw [if_neg (by omega), if_neg (by omega), if_neg (by omega), ofNat_eq (b := b) (by omega),
      ofNat_eq (b := second) (by omega), ofNat_eq (b := third) (by omega), ofNat_eq (b := fourth)
      (by omega)]

/-! ### Texts at the front of bytes -/

/-- The input starts with an encoded text, which may be empty, and goes on with the rest. -/
def Leads (input rest : Bytes) : Prop := ∃ s : String, input = encode s ++ rest

namespace Leads

@[refl] protected lemma refl (rest : Bytes) : Leads rest rest := ⟨"", rfl⟩

protected lemma trans {a b c : Bytes} (hab : Leads a b) (hbc : Leads b c) : Leads a c := by
  obtain ⟨s, rfl⟩ := hab
  obtain ⟨t, rfl⟩ := hbc
  exact ⟨s ++ t, by rw [encode_append, List.append_assoc]⟩

lemma length_le {input rest : Bytes} (h : Leads input rest) : rest.length ≤ input.length := by
  obtain ⟨s, rfl⟩ := h
  simp

lemma char (c : Char) (rest : Bytes) : Leads (String.utf8EncodeChar c ++ rest) rest :=
  ⟨String.ofList [c], by rw [encode_ofList, List.flatMap_singleton]⟩

/-- A byte of ASCII is a character. -/
lemma cons {b : UInt8} {input rest : Bytes} (more : Leads input rest)
    (h : b.toNat < 0x80 := by decide) : Leads (b :: input) rest := by
  have hval : (Char.ofNat b.toNat).val.toNat = b.toNat := toNat_charOfNat (.inl (by omega))
  have hb : String.utf8EncodeChar (Char.ofNat b.toNat) = [b] := by
    rw [String.utf8EncodeChar]
    simp only [hval]
    rw [if_pos (by omega), UInt8.ofNat_toNat]
  have hfirst := char (Char.ofNat b.toNat) input
  rw [hb] at hfirst
  exact hfirst.trans more

end Leads

end ClusterCost.Utf8
