import ClusterCost.Proofs.Json.Grammar

/-!
# Whole numbers as they are written

What is written for a whole number is a number of the grammar, as long as nothing follows that
could belong to it (`Ends`), and it is read as the number that was written, if this has 64
bits (`denotes_integer`).
-/

namespace ClusterCost.Json

/-- Nothing comes next that could belong to a number. -/
def Ends (rest : Bytes) : Prop :=
  ∀ b ∈ rest.head?, Literal.isDigit b = false ∧ b ≠ 0x2E ∧ b ≠ 0x65 ∧ b ≠ 0x45

lemma ends_nil : Ends [] := by
  intro b hb
  cases hb

lemma ends_cons {b : UInt8} (rest : Bytes)
    (h : Literal.isDigit b = false ∧ b ≠ 0x2E ∧ b ≠ 0x65 ∧ b ≠ 0x45 := by decide) :
    Ends (b :: rest) := by
  intro b' hb'
  cases hb'
  exact h

/-- Blanks do not belong to a number. -/
lemma Blanks.ends {input rest : Bytes} (h : Blanks input rest) (hrest : Ends rest) :
    Ends input := by
  cases h with
  | none rest => exact hrest
  | @some b input rest hb more =>
    simp only [Scan.isBlank, Bool.or_eq_true, beq_iff_eq] at hb
    rcases hb with ((rfl | rfl) | rfl) | rfl <;> exact ends_cons input

/-! ### Digits -/

/-- The digits of a number, as they are written. -/
def digitsOf (n : Nat) : Bytes := Utf8.encode (toString n)

/-- The byte of a digit. -/
def digitByte (n : Nat) : UInt8 := UInt8.ofNat (0x30 + n)

lemma toNat_digitByte {n : Nat} (h : n < 10) : (digitByte n).toNat = 0x30 + n :=
  Utf8.toNat_ofNat (by omega)

lemma isDigit_digitByte {n : Nat} (h : n < 10) : Literal.isDigit (digitByte n) = true := by
  rw [isDigit_iff, toNat_digitByte h]
  omega

lemma digitValue_digitByte {n : Nat} (h : n < 10) : Literal.digitValue (digitByte n) = n := by
  rw [Literal.digitValue, toNat_digitByte h]
  omega

lemma digitsOf_eq (n : Nat) :
    digitsOf n = (Nat.toDigits 10 n).map fun c => UInt8.ofNat c.toNat := by
  rw [digitsOf, Nat.toString_eq_ofList_toDigits]
  refine Utf8.encode_ascii fun c hc => ?_
  have hdigit := Nat.isDigit_of_mem_toDigits (by decide) le_rfl hc
  have hcode := (Char.isDigit_iff_toNat.mp hdigit).2
  exact lt_of_le_of_lt hcode (by decide)

lemma digitsOf_of_lt {n : Nat} (h : n < 10) : digitsOf n = [digitByte n] := by
  rw [digitsOf_eq, Nat.toDigits_of_lt_base h, List.map_singleton,
    Nat.toNat_digitChar_of_lt_ten h, digitByte]

lemma digitsOf_of_ge {n : Nat} (h : 10 ≤ n) :
    digitsOf n = digitsOf (n / 10) ++ [digitByte (n % 10)] := by
  have hlast : n % 10 < 10 := Nat.mod_lt n (by decide)
  rw [digitsOf_eq, Nat.toDigits_of_base_le (by decide) h, List.map_append, ← digitsOf_eq,
    List.map_singleton, Nat.toNat_digitChar_of_lt_ten hlast, digitByte]

lemma allDigits_digitsOf (n : Nat) : AllDigits (digitsOf n) := by
  induction n using Nat.strongRec with
  | ind n ih =>
    by_cases h : n < 10
    · rw [digitsOf_of_lt h]
      exact List.forall_mem_singleton.mpr (isDigit_digitByte h)
    · rw [digitsOf_of_ge (Nat.le_of_not_lt h)]
      refine List.forall_mem_append.mpr
        ⟨ih (n / 10) (by omega), List.forall_mem_singleton.mpr (isDigit_digitByte (by omega))⟩

/-- Only zero starts with a zero. -/
lemma exists_digitsOf_eq {n : Nat} (h : 0 < n) :
    ∃ d digits, digitsOf n = d :: digits ∧ d ≠ 0x30 := by
  induction n using Nat.strongRec with
  | ind n ih =>
    by_cases hone : n < 10
    · refine ⟨digitByte n, [], digitsOf_of_lt hone, fun hzero => ?_⟩
      have hcode := congrArg UInt8.toNat hzero
      rw [toNat_digitByte hone] at hcode
      change 0x30 + n = 0x30 at hcode
      omega
    · obtain ⟨d, digits, heq, hd⟩ := ih (n / 10) (by omega) (by omega)
      exact ⟨d, digits ++ [digitByte (n % 10)],
        by rw [digitsOf_of_ge (Nat.le_of_not_lt hone), heq, List.cons_append], hd⟩

lemma whole_digitsOf (n : Nat) {rest : Bytes} (h : NoDigit rest) :
    Whole (digitsOf n ++ rest) (digitsOf n) rest := by
  by_cases hzero : n = 0
  · subst hzero
    exact .zero h
  · obtain ⟨d, digits, heq, hd⟩ := exists_digitsOf_eq (Nat.pos_of_ne_zero hzero)
    have hall := allDigits_digitsOf n
    rw [heq] at hall ⊢
    obtain ⟨hfirst, hmore⟩ := List.forall_mem_cons.mp hall
    exact .other hfirst hd hmore h

/-! ### Numbers -/

lemma gather_append {n m : Nat} {digits more : Bytes} (h : Literal.gather n digits = (m, [])) :
    Literal.gather n (digits ++ more) = Literal.gather m more := by
  induction digits generalizing n with
  | nil =>
    cases h
    rfl
  | cons d digits ih =>
    rw [Literal.gather] at h
    rw [List.cons_append, Literal.gather]
    split_ifs at h ⊢ with hlarge
    · cases h
    · exact ih h

/-- The digits of a number are gathered into this number, as long as it has 64 bits. -/
lemma gather_digitsOf {n : Nat} (h : n ≤ Literal.largest) :
    Literal.gather 0 (digitsOf n) = (n, []) := by
  have hlast : ∀ m d, d < 10 → m * 10 + d ≤ Literal.largest →
      Literal.gather m [digitByte d] = (m * 10 + d, []) := by
    intro m d hd hle
    simp only [Literal.gather, digitValue_digitByte hd, if_neg (Nat.not_lt.mpr hle)]
  induction n using Nat.strongRec with
  | ind n ih =>
    by_cases hone : n < 10
    · rw [digitsOf_of_lt hone, hlast 0 n hone (by omega)]
      simp
    · have hsplit : n / 10 * 10 + n % 10 = n := Nat.div_add_mod' n 10
      rw [digitsOf_of_ge (Nat.le_of_not_lt hone), gather_append (ih (n / 10) (by omega) (by omega)),
        hlast (n / 10) (n % 10) (by omega) (by omega), hsplit]

lemma value?_positive {n : Nat} (h : n ≤ Literal.largest) :
    Literal.value? ⟨false, digitsOf n, none, none⟩ = .ok (.natural n) := by
  simp [Literal.value?, gather_digitsOf h]

lemma value?_negative {n : Nat} (hpos : 0 < n) (h : n ≤ Nat.pow 2 63) :
    Literal.value? ⟨true, digitsOf n, none, none⟩ = .ok (.negative n) := by
  have hlarge : n ≤ Literal.largest := h.trans (by decide)
  simp [Literal.value?, gather_digitsOf hlarge, Nat.not_lt.mpr h, hpos.ne']

/-- The number has 64 bits, with a sign if it is negative. -/
def Fits64 (n : Int) : Prop := -(Nat.pow 2 63 : Int) ≤ n ∧ n ≤ (Literal.largest : Int)

/-- What is written for a whole number is a number that is read as this one. -/
lemma denotes_integer {n : Int} (h : Fits64 n) {rest : Bytes} (hrest : Ends rest) :
    Denotes (Value.writeScalar (.integer n) ++ rest) (Value.integer n).tree rest := by
  have hdigit : NoDigit rest := fun b hb => (hrest b hb).1
  have hpoint : Fraction rest none rest := .none fun b hb => (hrest b hb).2.1
  have hmark : Exponent rest none rest := .none fun b hb => (hrest b hb).2.2
  obtain ⟨hlow, hhigh⟩ := h
  cases n with
  | ofNat n =>
    have hnumber := Denotes.number (.positive (whole_digitsOf n hdigit) hpoint hmark)
    rwa [value?_positive (Int.ofNat_le.mp hhigh)] at hnumber
  | negSucc n =>
    have hnumber := Denotes.number (.negative (whole_digitsOf (n + 1) hdigit) hpoint hmark)
    have hbytes : Value.writeScalar (.integer (.negSucc n)) = 0x2D :: digitsOf (n + 1) :=
      Utf8.encode_append "-" (toString (n + 1))
    rw [value?_negative (Nat.succ_pos n) (by omega)] at hnumber
    rwa [hbytes]

end ClusterCost.Json
