import ClusterCost.Http.Route
import ClusterCost.Proofs.Url.Form

/-!
# Texts in segments of paths

A text may be spelled in a segment of a path in many ways: each of its bytes may be escaped, with
digits of either case, and those that may stand in a URI and mean nothing in a path may also stand
for themselves (`Percent.Spells`). Every text has such a spelling, and from each of them its bytes
come back when it is decoded once (`Percent.Spells.decode`).
-/

namespace ClusterCost

namespace Percent

/-- The characters of a URI that mean nothing in a path. -/
def segmentChars : List Char :=
  "ABCDEFGHIJKLMNOPQRSTUVWXYZabcdefghijklmnopqrstuvwxyz0123456789-._~:[]@!$&\x27()*+,;=".toList

/-- The hexadecimal digits of both cases, with their values. -/
def hexDigits : List (Char × Nat) :=
  "0123456789ABCDEF".toList.zipIdx ++ "0123456789abcdef".toList.zipIdx

/-- The characters spell these bytes in a segment of a path. -/
inductive Spells : Bytes → List Char → Prop
  | nil : Spells [] []
  | plain {c : Char} {bytes : Bytes} {cs : List Char} (h : c ∈ segmentChars)
      (more : Spells bytes cs) :
      Spells (.ofNat c.toNat :: bytes) (c :: cs)
  | escaped {d e : Char} {high low : Nat} {bytes : Bytes} {cs : List Char}
      (hhigh : (d, high) ∈ hexDigits)
      (hlow : (e, low) ∈ hexDigits) (more : Spells bytes cs) :
      Spells (.ofNat (16 * high + low) :: bytes) ('%' :: d :: e :: cs)

/-- The character is one of ASCII that neither separates nor ends a segment. -/
def Inside (c : Char) : Prop := c.toNat < 0x80 ∧ c ≠ '/' ∧ c ≠ '?' ∧ c ≠ '#'

instance : DecidablePred Inside := fun _ => inferInstanceAs (Decidable (_ ∧ _))

lemma inside_segmentChars : ∀ c ∈ segmentChars, Inside c := List.all_iff_forall_prop.mp (by decide)

lemma inside_hexDigits : ∀ p ∈ hexDigits, Inside p.1 := List.all_iff_forall_prop.mp (by decide)

lemma ne_percent_of_mem_segmentChars : ∀ c ∈ segmentChars, UInt8.ofNat c.toNat ≠ 0x25 :=
  List.all_iff_forall_prop.mp (by decide)

lemma digitValue?_of_mem_hexDigits :
    ∀ p ∈ hexDigits, digitValue? (.ofNat p.1.toNat) = some (.ofNat p.2) :=
  List.all_iff_forall_prop.mp (by decide)

lemma mem_hexDigits : ∀ n < 16, (digit n, n) ∈ hexDigits := by decide

section Spells

variable {bytes : Bytes} {cs : List Char}

lemma Spells.inside (h : Spells bytes cs) : ∀ c ∈ cs, Inside c := by
  induction h with
  | nil => simp
  | plain h more ih => exact List.forall_mem_cons.mpr ⟨inside_segmentChars _ h, ih⟩
  | escaped hhigh hlow more ih =>
    simp only [List.forall_mem_cons]
    exact ⟨by decide, inside_hexDigits _ hhigh, inside_hexDigits _ hlow, ih⟩

lemma Spells.ne_nil (h : Spells bytes cs) (hbytes : bytes ≠ []) : cs ≠ [] := by
  cases h with
  | nil => exact absurd rfl hbytes
  | plain h more => simp
  | escaped hhigh hlow more => simp

/-- What is spelled comes back when it is decoded. -/
theorem Spells.decode (h : Spells bytes cs) : decode (cs.map fun c => .ofNat c.toNat) = bytes := by
  induction h with
  | nil => rfl
  | plain h more ih => rw [List.map_cons, decode_cons (ne_percent_of_mem_segmentChars _ h), ih]
  | @escaped d e high low bytes cs hhigh hlow more ih =>
    show Percent.decode
      (0x25 :: .ofNat d.toNat :: .ofNat e.toNat :: cs.map fun c => .ofNat c.toNat) = _
    rw [Percent.decode]
    simp only [digitValue?_of_mem_hexDigits _ hhigh, digitValue?_of_mem_hexDigits _ hlow, ih]
    simp

/-- Characters that mean nothing in a path stand for themselves. -/
lemma spells_plain (h : ∀ c ∈ cs, c ∈ segmentChars) :
    Spells (cs.map fun c => .ofNat c.toNat) cs := by
  induction cs with
  | nil => exact .nil
  | cons c cs ih =>
    obtain ⟨hc, hcs⟩ := List.forall_mem_cons.mp h
    exact .plain hc (ih hcs)

/-- All bytes may be escaped. -/
lemma exists_spells (bytes : Bytes) : ∃ cs, Spells bytes cs := by
  induction bytes with
  | nil => exact ⟨[], .nil⟩
  | cons b bytes ih =>
    obtain ⟨cs, more⟩ := ih
    have hb := b.toNat_lt
    have hspells := Spells.escaped (mem_hexDigits (b.toNat / 16) (by omega))
      (mem_hexDigits (b.toNat % 16) (by omega)) more
    rw [Nat.div_add_mod, UInt8.ofNat_toNat] at hspells
    exact ⟨_, hspells⟩

end Spells

end Percent

namespace Http

variable {id segment : String}

/-- A segment spells an id. -/
def SpellsId (segment id : String) : Prop := Percent.Spells (Utf8.encode id) segment.toList

lemma exists_spellsId (id : String) : ∃ segment, SpellsId segment id := by
  obtain ⟨cs, hcs⟩ := Percent.exists_spells (Utf8.encode id)
  exact ⟨String.ofList cs, by rwa [SpellsId, String.toList_ofList]⟩

/-- Most ids are their own segment. -/
lemma spellsId_self (h : ∀ c ∈ id.toList, c ∈ Percent.segmentChars) : SpellsId id id := by
  have hascii : ∀ c ∈ id.toList, c.toNat < 0x80 :=
    fun c hc => (Percent.inside_segmentChars c (h c hc)).1
  have hbytes := Utf8.encode_ascii hascii
  rw [String.ofList_toList] at hbytes
  rw [SpellsId, hbytes]
  exact Percent.spells_plain h

lemma SpellsId.ne_empty (h : SpellsId segment id) (hid : id ≠ "") : segment ≠ "" := by
  have hbytes : Utf8.encode id ≠ [] := by
    intro hnil
    have hdecode := Utf8.decode?_encode id
    rw [hnil] at hdecode
    cases hdecode
    exact hid rfl
  rintro rfl
  exact h.ne_nil hbytes rfl

/-- A segment that spells an id is decoded to this id. -/
theorem SpellsId.decodeId? (h : SpellsId segment id) : decodeId? segment = some id := by
  have hascii : ∀ c ∈ segment.toList, c.toNat < 0x80 := fun c hc => (h.inside c hc).1
  have hbytes := Utf8.encode_ascii hascii
  rw [String.ofList_toList] at hbytes
  rw [Http.decodeId?, hbytes, h.decode, Utf8.decode?_encode]

end Http

end ClusterCost
