import ClusterCost.Json.Scan
import ClusterCost.Proofs.Outcome
import Mathlib.Data.List.TakeWhile

/-!
# The grammar of numbers

`SpellsNumber input l rest` says that the input starts with a number, whose parts are `l`, and that
no part of the rest could belong to the number. The scan finds exactly these numbers
(`scanNumber_of_spells`, `spells_of_scanNumber`).
-/

namespace ClusterCost.Json

/-! ### The grammar -/

/-- All bytes are digits. -/
def AllDigits (bytes : Bytes) : Prop := ∀ b ∈ bytes, Literal.isDigit b = true

/-- No digit comes next. -/
def NoDigit (rest : Bytes) : Prop := ∀ b ∈ rest.head?, Literal.isDigit b = false

/-- The digits before the point: a zero, or digits that start with none. -/
inductive Whole : Bytes → Bytes → Bytes → Prop
  | zero {rest : Bytes} (h : NoDigit rest) : Whole (0x30 :: rest) [0x30] rest
  | other {d : UInt8} {digits rest : Bytes} (hd : Literal.isDigit d = true) (hzero : d ≠ 0x30)
      (hdigits : AllDigits digits)
      (h : NoDigit rest) : Whole (d :: (digits ++ rest)) (d :: digits) rest

/-- An optional point with the digits after it. -/
inductive Fraction : Bytes → Option Bytes → Bytes → Prop
  | none {rest : Bytes} (h : ∀ b ∈ rest.head?, b ≠ 0x2E) : Fraction rest none rest
  | some {digits rest : Bytes} (hsome : digits ≠ []) (hdigits : AllDigits digits)
      (h : NoDigit rest) :
      Fraction (0x2E :: (digits ++ rest)) (some digits) rest

/-- An optional sign, and whether it is negative. -/
inductive Sign : Bytes → Bool → Prop
  | none : Sign [] false
  | plus : Sign [0x2B] false
  | minus : Sign [0x2D] true

/-- An optional exponent: its mark, a sign and digits. -/
inductive Exponent : Bytes → Option (Bool × Bytes) → Bytes → Prop
  | none {rest : Bytes} (h : ∀ b ∈ rest.head?, b ≠ 0x65 ∧ b ≠ 0x45) : Exponent rest none rest
  | some {mark : UInt8} {sign digits rest : Bytes} {negative : Bool}
      (hmark : mark = 0x65 ∨ mark = 0x45) (hsign : Sign sign negative)
      (hsome : digits ≠ []) (hdigits : AllDigits digits) (h : NoDigit rest) :
      Exponent (mark :: (sign ++ (digits ++ rest))) (some (negative, digits)) rest

/-- A number: an optional minus and its three parts. -/
inductive SpellsNumber : Bytes → Literal → Bytes → Prop
  | positive {input mid next rest whole : Bytes} {fraction : Option Bytes}
      {exponent : Option (Bool × Bytes)}
      (hwhole : Whole input whole mid) (hfraction : Fraction mid fraction next)
      (hexponent : Exponent next exponent rest) :
      SpellsNumber input ⟨false, whole, fraction, exponent⟩ rest
  | negative {input mid next rest whole : Bytes} {fraction : Option Bytes}
      {exponent : Option (Bool × Bytes)}
      (hwhole : Whole input whole mid) (hfraction : Fraction mid fraction next)
      (hexponent : Exponent next exponent rest) :
      SpellsNumber (0x2D :: input) ⟨true, whole, fraction, exponent⟩ rest

namespace Scan

variable {e : Ending} {c after : Cursor} {digits rest : Bytes}

/-! ### Digits -/

lemma spanDigits_append (hdigits : AllDigits digits) (h : NoDigit rest) (place : Nat) :
    spanDigits ⟨digits ++ rest, place⟩ = (digits, ⟨rest, place + digits.length⟩) := by
  have htake : (digits ++ rest).takeWhile Literal.isDigit = digits := by
    rw [List.takeWhile_append_of_pos hdigits]
    cases rest with
    | nil => exact List.append_nil digits
    | cons b rest =>
      have hb : Literal.isDigit b = false := h b rfl
      simp [hb]
  simp [spanDigits, htake, Cursor.advance]

lemma noDigit_dropWhile (bytes : Bytes) : NoDigit (bytes.dropWhile Literal.isDigit) := by
  intro b hb
  have hnot := List.head?_dropWhile_not Literal.isDigit bytes
  cases hdrop : bytes.dropWhile Literal.isDigit with
  | nil => simp [hdrop] at hb
  | cons d rest =>
    rw [hdrop] at hb hnot
    cases hb
    simpa using hnot

/-- What `spanDigits` gives are digits, and they come first. -/
lemma of_spanDigits (h : spanDigits c = (digits, after)) :
    c.rest = digits ++ after.rest ∧ AllDigits digits ∧ NoDigit after.rest := by
  have hdrop : c.rest.drop (c.rest.takeWhile Literal.isDigit).length =
      c.rest.dropWhile Literal.isDigit := by
    have hsplit := @List.drop_left _ (c.rest.takeWhile Literal.isDigit)
      (c.rest.dropWhile Literal.isDigit)
    rwa [List.takeWhile_append_dropWhile] at hsplit
  rw [spanDigits] at h
  cases h
  simp only [Cursor.advance, hdrop]
  exact ⟨List.takeWhile_append_dropWhile.symm, fun _ => List.mem_takeWhile_imp,
    noDigit_dropWhile c.rest⟩

lemma someDigits_append (hsome : digits ≠ []) (hdigits : AllDigits digits) (h : NoDigit rest)
    (place : Nat) :
    someDigits e ⟨digits ++ rest, place⟩ = .ok (digits, ⟨rest, place + digits.length⟩) := by
  rw [someDigits, spanDigits_append hdigits h]
  cases digits with
  | nil => exact absurd rfl hsome
  | cons d digits => rfl

lemma of_someDigits (h : someDigits e c = .ok (digits, after)) :
    digits ≠ [] ∧ c.rest = digits ++ after.rest ∧ AllDigits digits ∧ NoDigit after.rest := by
  rw [someDigits] at h
  split at h
  · cases h
  · rename_i hnil
    injection h with hspan
    refine ⟨?_, of_spanDigits hspan⟩
    rintro rfl
    exact hnil _ hspan

/-! ### The parts of a number -/

lemma scanWhole_of_whole {input whole : Bytes} (h : Whole input whole rest) (place : Nat) :
    ∃ place', scanWhole e ⟨input, place⟩ = .ok (whole, ⟨rest, place'⟩) := by
  cases h with
  | zero h =>
    have hzero : AllDigits [0x30] := by simp [AllDigits, show Literal.isDigit 0x30 = true by decide]
    have hdigits := someDigits_append (e := e) (List.cons_ne_nil _ _) hzero h place
    exact ⟨_, by rw [scanWhole, ← List.singleton_append, hdigits]; rfl⟩
  | @other d digits rest hd hzero hdigits h =>
    have hall : AllDigits (d :: digits) := List.forall_mem_cons.mpr ⟨hd, hdigits⟩
    have hdigits := someDigits_append (e := e) (List.cons_ne_nil _ _) hall h place
    refine ⟨place + (d :: digits).length, ?_⟩
    rw [scanWhole, ← List.cons_append, hdigits]
    split
    · rename_i heq
      cases heq
      exact absurd rfl hzero
    · rfl

lemma whole_of_scanWhole {whole : Bytes} (h : scanWhole e c = .ok (whole, after)) :
    Whole c.rest whole after.rest := by
  rw [scanWhole] at h
  split at h
  · cases h
  · rename_i hzero
    obtain ⟨hsome, hrest, hdigits, hno⟩ := of_someDigits h
    obtain ⟨d, digits, rfl⟩ := List.exists_cons_of_ne_nil hsome
    obtain ⟨hd, hdigits⟩ := List.forall_mem_cons.mp hdigits
    rw [hrest]
    by_cases hd₀ : d = 0x30
    · subst hd₀
      cases digits with
      | nil => exact .zero hno
      | cons b digits => exact absurd h (hzero b digits after)
    · exact .other hd hd₀ hdigits hno

lemma scanFraction_of_fraction {input : Bytes} {fraction : Option Bytes}
    (h : Fraction input fraction rest) (place : Nat) :
    ∃ place', scanFraction e ⟨input, place⟩ = .ok (fraction, ⟨rest, place'⟩) := by
  cases h with
  | none h =>
    refine ⟨place, ?_⟩
    rw [scanFraction]
    split
    · rename_i heq
      simp only at heq
      subst heq
      exact absurd rfl (h _ rfl)
    · rfl
  | some hsome hdigits h =>
    have hdigits := someDigits_append (e := e) hsome hdigits h (place + 1)
    exact ⟨_, by rw [scanFraction]; exact congrArg (Except.map _) hdigits⟩

lemma fraction_of_scanFraction {fraction : Option Bytes}
    (h : scanFraction e c = .ok (fraction, after)) : Fraction c.rest fraction after.rest := by
  rw [scanFraction] at h
  split at h
  · rename_i rest hrest
    obtain ⟨⟨digits, found⟩, hfound, heq⟩ := map_eq_ok_iff.mp h
    cases heq
    obtain ⟨hsome, heq, hdigits, hno⟩ := of_someDigits hfound
    rw [Cursor.advance, hrest] at heq
    rw [hrest, show rest = digits ++ after.rest from heq]
    exact .some hsome hdigits hno
  · rename_i hpoint
    cases h
    refine .none fun b hb heq => ?_
    obtain ⟨rest, hrest⟩ := List.head?_eq_some_iff.mp hb
    exact hpoint rest (heq ▸ hrest)

/-- A digit is no sign. -/
lemma scanSign_of_sign {sign : Bytes} {negative : Bool} (h : Sign sign negative) {d : UInt8}
    (hd : Literal.isDigit d = true) (rest : Bytes) :
    scanSign (sign ++ d :: rest) = (negative, sign.length) := by
  cases h with
  | none =>
    rw [List.nil_append]
    unfold scanSign
    split
    · rename_i heq
      cases heq
      exact absurd hd (by decide)
    · rename_i heq
      cases heq
      exact absurd hd (by decide)
    · rfl
  | plus => rfl
  | minus => rfl

lemma sign_of_scanSign (input : Bytes) :
    ∃ sign rest, input = sign ++ rest ∧ Sign sign (scanSign input).1 ∧
      sign.length = (scanSign input).2 := by
  unfold scanSign
  split
  · exact ⟨[0x2B], _, rfl, .plus, rfl⟩
  · exact ⟨[0x2D], _, rfl, .minus, rfl⟩
  · exact ⟨[], input, rfl, .none, rfl⟩

lemma scanExponent_of_exponent {input : Bytes} {exponent : Option (Bool × Bytes)}
    (h : Exponent input exponent rest) (place : Nat) :
    ∃ place', scanExponent e ⟨input, place⟩ = .ok (exponent, ⟨rest, place'⟩) := by
  rw [scanExponent]
  cases h with
  | none h =>
    refine ⟨place, ?_⟩
    cases rest with
    | nil => rfl
    | cons b rest =>
      obtain ⟨hlow, hhigh⟩ := h b rfl
      simp [hlow, hhigh]
  | @some mark sign digits rest negative hmark hsign hsome hdigits h =>
    have hletter : (mark == 0x65 || mark == 0x45) = true := by simpa using hmark
    have hfound := someDigits_append (e := e) hsome hdigits h (place + (1 + sign.length))
    have hadvance : Cursor.advance ⟨mark :: (sign ++ (digits ++ rest)), place⟩ (1 + sign.length) =
        ⟨digits ++ rest, place + (1 + sign.length)⟩ := by
      rw [Cursor.advance, Nat.add_comm 1, List.drop_succ_cons, List.drop_left]
    obtain ⟨d, more, rfl⟩ := List.exists_cons_of_ne_nil hsome
    have hscan := scanSign_of_sign hsign (hdigits d List.mem_cons_self) (more ++ rest)
    refine ⟨place + (1 + sign.length) + (d :: more).length, ?_⟩
    rw [← List.cons_append] at hscan
    simp only [hletter, if_true, hscan, hadvance, hfound]
    rfl

lemma exponent_of_scanExponent {exponent : Option (Bool × Bytes)}
    (h : scanExponent e c = .ok (exponent, after)) : Exponent c.rest exponent after.rest := by
  rw [scanExponent] at h
  split at h
  · rename_i mark input hinput
    rw [hinput]
    split_ifs at h with hmark
    · obtain ⟨sign, rest, hsplit, hsign, hlength⟩ := sign_of_scanSign input
      generalize scanSign input = found at h hsign hlength
      obtain ⟨negative, length⟩ := found
      obtain ⟨⟨digits, found⟩, hfound, heq⟩ := map_eq_ok_iff.mp h
      cases heq
      obtain ⟨hsome, hrest, hdigits, hno⟩ := of_someDigits hfound
      simp only at hlength hsign
      subst hlength
      have hdrop : (c.advance (1 + sign.length)).rest = rest := by
        rw [Cursor.advance, hinput, hsplit, Nat.add_comm 1, List.drop_succ_cons, List.drop_left]
      rw [hsplit, ← hdrop, hrest]
      exact .some (by simpa using hmark) hsign hsome hdigits hno
    · cases h
      rw [hinput]
      refine .none fun b hb => ?_
      cases hb
      simpa using hmark
  · rename_i hnil
    cases h
    rw [hnil]
    exact .none (by simp)

/-! ### Numbers -/

lemma scanUnsigned_of_parts {input mid next whole : Bytes} {fraction : Option Bytes}
    {exponent : Option (Bool × Bytes)}
    (hwhole : Whole input whole mid) (hfraction : Fraction mid fraction next)
    (hexponent : Exponent next exponent rest)
    (start : Nat) (negative : Bool) (place : Nat) :
    ∃ place', scanUnsigned .finished start negative ⟨input, place⟩ =
      .ok
        (numberOutline start ⟨negative, whole, fraction, exponent⟩ ⟨rest, place'⟩,
         ⟨rest, place'⟩) := by
  obtain ⟨place₁, h₁⟩ := scanWhole_of_whole (e := .finished) hwhole place
  obtain ⟨place₂, h₂⟩ := scanFraction_of_fraction (e := .finished) hfraction place₁
  obtain ⟨place₃, h₃⟩ := scanExponent_of_exponent (e := .finished) hexponent place₂
  refine ⟨place₃, ?_⟩
  rw [scanUnsigned]
  simp only [h₁, h₂, h₃, ok_bind]
  rfl

/-- A number of the grammar is found, and nothing after it. -/
theorem scanNumber_of_spells {input : Bytes} {l : Literal} (h : SpellsNumber input l rest)
    (place : Nat) :
    ∃ place', scanNumber .finished ⟨input, place⟩ =
      .ok (numberOutline place l ⟨rest, place'⟩, ⟨rest, place'⟩) := by
  cases h with
  | positive hwhole hfraction hexponent =>
    obtain ⟨place', hscan⟩ := scanUnsigned_of_parts hwhole hfraction hexponent place false place
    refine ⟨place', ?_⟩
    rw [scanNumber]
    split
    · rename_i heq
      simp only at heq
      subst heq
      cases hwhole with
      | other hd => exact absurd hd (by decide)
    · exact hscan
  | negative hwhole hfraction hexponent =>
    obtain ⟨place', hscan⟩ := scanUnsigned_of_parts hwhole hfraction hexponent place true
      (place + 1)
    exact ⟨place', hscan⟩

lemma parts_of_scanUnsigned {start : Nat} {negative : Bool} {o : Outline}
    (h : scanUnsigned e start negative c = .ok (o, after)) :
    ∃ whole fraction exponent mid next, Whole c.rest whole mid ∧ Fraction mid fraction next ∧
      Exponent next exponent after.rest ∧
      o = numberOutline start ⟨negative, whole, fraction, exponent⟩ after := by
  rw [scanUnsigned] at h
  obtain ⟨⟨whole, c₁⟩, h₁, h⟩ := bind_eq_ok_iff.mp h
  obtain ⟨⟨fraction, c₂⟩, h₂, h⟩ := bind_eq_ok_iff.mp h
  obtain ⟨⟨exponent, c₃⟩, h₃, h⟩ := bind_eq_ok_iff.mp h
  dsimp only at h
  split at h
  · cases h
  · cases h
    exact ⟨whole, fraction, exponent, _, _, whole_of_scanWhole h₁, fraction_of_scanFraction h₂,
      exponent_of_scanExponent h₃, rfl⟩

/-- What is found as a number is one of the grammar. -/
theorem spells_of_scanNumber {o : Outline} (h : scanNumber e c = .ok (o, after)) :
    ∃ l, SpellsNumber c.rest l after.rest ∧ o = numberOutline c.place l after := by
  rw [scanNumber] at h
  split at h
  · rename_i rest hrest
    obtain ⟨whole, fraction, exponent, mid, next, hwhole, hfraction, hexponent, rfl⟩ :=
      parts_of_scanUnsigned h
    rw [Cursor.advance, hrest] at hwhole
    exact ⟨_, hrest ▸ .negative hwhole hfraction hexponent, rfl⟩
  · obtain ⟨whole, fraction, exponent, mid, next, hwhole, hfraction, hexponent, rfl⟩ :=
      parts_of_scanUnsigned h
    exact ⟨_, .positive hwhole hfraction hexponent, rfl⟩

end Scan

/-! ### The first byte -/

lemma isDigit_iff {b : UInt8} : Literal.isDigit b = true ↔ 0x30 ≤ b.toNat ∧ b.toNat ≤ 0x39 := by
  simp [Literal.isDigit, UInt8.le_iff_toNat_le]

/-- A byte with which a number starts is none of the other bytes. -/
lemma beq_eq_false_of_number {b : UInt8} (h : b = 0x2D ∨ Literal.isDigit b = true) (k : UInt8)
    (hk : k ≠ 0x2D ∧ Literal.isDigit k = false := by decide) : (b == k) = false := by
  rw [beq_eq_false_iff_ne]
  rintro rfl
  rcases h with h | h
  · exact hk.1 h
  · rw [hk.2] at h
    cases h

section First

variable {input rest : Bytes} {l : Literal}

lemma Whole.first {whole : Bytes} (h : Whole input whole rest) :
    ∃ b more, input = b :: more ∧ Literal.isDigit b = true ∧ rest.length < input.length := by
  cases h with
  | zero h => exact ⟨_, _, rfl, by decide, Nat.lt_succ_self _⟩
  | other hd hzero hdigits h =>
    exact ⟨_, _, rfl, hd, by simp only [List.length_cons, List.length_append]; omega⟩

lemma Fraction.length_le {fraction : Option Bytes} (h : Fraction input fraction rest) :
    rest.length ≤ input.length := by
  cases h with
  | none h => exact le_rfl
  | some hsome hdigits h => simp only [List.length_cons, List.length_append]; omega

lemma Exponent.length_le {exponent : Option (Bool × Bytes)} (h : Exponent input exponent rest) :
    rest.length ≤ input.length := by
  cases h with
  | none h => exact le_rfl
  | some hmark hsign hsome hdigits h => simp only [List.length_cons, List.length_append]; omega

/-- A number starts with a minus or a digit. -/
lemma SpellsNumber.first (h : SpellsNumber input l rest) :
    ∃ b more, input = b :: more ∧ (b = 0x2D ∨ Literal.isDigit b = true) ∧
      rest.length < input.length := by
  cases h with
  | positive hwhole hfraction hexponent =>
    obtain ⟨b, more, rfl, hb, hlen⟩ := hwhole.first
    exact ⟨b, more, rfl, .inr hb,
      lt_of_le_of_lt (hexponent.length_le.trans hfraction.length_le) hlen⟩
  | negative hwhole hfraction hexponent =>
    obtain ⟨b, more, rfl, hb, hlen⟩ := hwhole.first
    have hlen' := hexponent.length_le.trans hfraction.length_le
    exact ⟨_, _, rfl, .inl rfl, by rw [List.length_cons]; omega⟩

end First

end ClusterCost.Json
