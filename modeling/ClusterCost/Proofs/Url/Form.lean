import ClusterCost.Proofs.Text.Utf8
import ClusterCost.Url.Percent
import Mathlib.Data.Bool.AllAny
import Mathlib.Data.List.TakeWhile

/-!
# Laws of form encoding

Whatever is escaped comes back when it is decoded (`Form.decode_encode`). So a query string that is
written for a name and a value has just this pair (`Form.pairs_encode`).
-/

namespace ClusterCost

/-! ### Escapes -/

namespace Percent

/-- The characters of which escapes are made. -/
def escapeChars : List Char := "%0123456789ABCDEF".toList

lemma mem_escapeChars {b : UInt8} : ∀ c ∈ escape b, c ∈ escapeChars := by
  have hdigit : ∀ n < 16, digit n ∈ escapeChars := by decide
  have hb := b.toNat_lt
  simp only [escape, List.mem_cons, List.not_mem_nil, or_false, forall_eq_or_imp, forall_eq]
  exact ⟨by decide, hdigit _ (by omega), hdigit _ (by omega)⟩

lemma digitValue?_digit : ∀ n < 16, digitValue? (.ofNat (digit n).toNat) = some (.ofNat n) := by
  decide

lemma decode_cons {b : UInt8} (h : b ≠ 0x25) (rest : Bytes) :
    decode (b :: rest) = b :: decode rest := by
  rw [decode]
  intro _ _ _ heq
  exact absurd heq h

lemma decode_escape (b : UInt8) (rest : Bytes) :
    decode ((escape b).map (fun c => .ofNat c.toNat) ++ rest) = b :: decode rest := by
  have hb := b.toNat_lt
  have hvalue : 16 * UInt8.ofNat (b.toNat / 16) + UInt8.ofNat (b.toNat % 16) = b := by
    rw [← UInt8.toNat_inj, UInt8.toNat_add, UInt8.toNat_mul, UInt8.toNat_ofNat', UInt8.toNat_ofNat']
    simp only [UInt8.reduceToNat]
    omega
  show decode (0x25 :: .ofNat (digit (b.toNat / 16)).toNat ::
    .ofNat (digit (b.toNat % 16)).toNat :: rest) = _
  rw [decode]
  simp only [digitValue?_digit _ (by omega : b.toNat / 16 < 16),
    digitValue?_digit _ (by omega : b.toNat % 16 < 16), hvalue]

end Percent

/-! ### Names and values -/

namespace Form

/-- The character may stand in an encoded text: it is one of ASCII that does not
separate or end anything. -/
def Allowed (c : Char) : Prop := c.toNat < 0x80 ∧ c ≠ '&' ∧ c ≠ '=' ∧ c ≠ '#'

instance : DecidablePred Allowed := fun _ => inferInstanceAs (Decidable (_ ∧ _))

/-- A plain byte is one of ASCII, and none of those that mean something. -/
lemma of_isPlain {b : UInt8} (h : isPlain b = true) :
    b.toNat < 0x80 ∧ b.toNat ≠ 0x23 ∧ b.toNat ≠ 0x25 ∧ b.toNat ≠ 0x26 ∧ b.toNat ≠ 0x2B ∧
    b.toNat ≠ 0x3D := by
  simp only [isPlain, Bool.or_eq_true, Bool.and_eq_true, decide_eq_true_eq, beq_iff_eq,
    UInt8.le_iff_toNat_le, ← UInt8.toNat_inj, UInt8.reduceToNat] at h
  omega

lemma toNat_char {b : UInt8} (h : b.toNat < 0x80) : (Char.ofNat b.toNat).toNat = b.toNat :=
  Utf8.toNat_charOfNat (.inl (by omega))

lemma allowed_of_mem_encodeByte (b : UInt8) : ∀ c ∈ encodeByte b, Allowed c := by
  intro c hc
  rw [encodeByte] at hc
  split_ifs at hc with hplain hspace
  · obtain ⟨hlt, hhash, -, hand, -, hequals⟩ := of_isPlain hplain
    obtain rfl := List.mem_singleton.mp hc
    have hne : ∀ d : Char, b.toNat ≠ d.toNat → Char.ofNat b.toNat ≠ d := by
      rintro d hd rfl
      exact hd (toNat_char hlt).symm
    exact ⟨by rwa [toNat_char hlt], hne _ hand, hne _ hequals, hne _ hhash⟩
  · obtain rfl := List.mem_singleton.mp hc
    decide
  · have hall : ∀ c ∈ Percent.escapeChars, Allowed c := List.all_iff_forall_prop.mp (by decide)
    exact hall c (Percent.mem_escapeChars c hc)

lemma decodeBytes_encodeByte (b : UInt8) (rest : Bytes) :
    decodeBytes ((encodeByte b).map (fun c => .ofNat c.toNat) ++ rest) = b :: decodeBytes rest := by
  rw [encodeByte]
  split_ifs with hplain hspace
  · obtain ⟨hlt, -, hpercent, -, hplus, -⟩ := of_isPlain hplain
    have hbyte : UInt8.ofNat (Char.ofNat b.toNat).toNat = b := by
      rw [toNat_char hlt, UInt8.ofNat_toNat]
    have hspace : (b == 0x2B) = false := by
      rw [beq_eq_false_iff_ne]
      rintro rfl
      exact hplus rfl
    simp only [decodeBytes, List.map_cons, List.map_nil, List.singleton_append, hbyte, hspace]
    apply Percent.decode_cons
    rintro rfl
    exact hpercent rfl
  · obtain rfl : b = 0x20 := by simpa using hspace
    exact Percent.decode_cons (by decide) _
  · have hsame :
        ((Percent.escape b).map fun c => UInt8.ofNat c.toNat).map
          (fun b => if b == 0x2B then 0x20 else b) =
        (Percent.escape b).map fun c => UInt8.ofNat c.toNat := by
      rw [List.map_map]
      apply List.map_congr_left
      intro c hc
      have hall : ∀ c ∈ Percent.escapeChars, UInt8.ofNat c.toNat ≠ 0x2B :=
        List.all_iff_forall_prop.mp (by decide)
      simp [hall c (Percent.mem_escapeChars c hc)]
    rw [decodeBytes, List.map_append, hsame, Percent.decode_escape, decodeBytes]

lemma decodeBytes_flatMap (bytes : Bytes) :
    decodeBytes ((bytes.flatMap encodeByte).map fun c => .ofNat c.toNat) = bytes := by
  induction bytes with
  | nil => rfl
  | cons b bytes ih => rw [List.flatMap_cons, List.map_append, decodeBytes_encodeByte, ih]

lemma allowed_encode (s : String) : ∀ c ∈ (encode s).toList, Allowed c := by
  intro c hc
  rw [encode, String.toList_ofList, List.mem_flatMap] at hc
  obtain ⟨b, -, hb⟩ := hc
  exact allowed_of_mem_encodeByte b c hb

/-- Decoding gives back the text that was encoded. -/
theorem decode_encode (s : String) : decode (encode s) = s := by
  have hascii : ∀ c ∈ (Utf8.encode s).flatMap encodeByte, c.toNat < 0x80 := fun c hc =>
    (allowed_encode s c (by rwa [encode, String.toList_ofList])).1
  rw [decode, encode, Utf8.encode_ascii hascii, decodeBytes_flatMap, Utf8.decodeLossy_encode]

/-- In a written pair only the sign between name and value separates anything. -/
lemma not_mem_pair {c : Char} (hc : ¬ Allowed c) (hequals : c ≠ '=') (name value : String) :
    c ∉ (encode name ++ "=" ++ encode value).toList := by
  simp only [String.toList_append, List.mem_append, not_or]
  refine ⟨⟨fun h => hc (allowed_encode name c h), by simpa using hequals⟩,
    fun h => hc (allowed_encode value c h)⟩

/-- A query string that is written for a name and a value has this pair and no other. -/
theorem pairs_encode (name value : String) :
    pairs (encode name ++ "=" ++ encode value) = [(name, value)] := by
  have hone := not_mem_pair (by decide : ¬ Allowed '&') (by decide) name value
  have hname : ∀ c ∈ (encode name).toList, (c != '=') = true :=
    fun c hc => by simpa using (allowed_encode name c hc).2.2.1
  have hlist : (encode name ++ "=" ++ encode value).toList =
      (encode name).toList ++ '=' :: (encode value).toList := by
    simp
  rw [pairs, List.splitOn_eq_singleton hone, hlist]
  simp [List.takeWhile_append_of_pos hname, List.dropWhile_append_of_pos hname, decode_encode]

end Form

end ClusterCost
