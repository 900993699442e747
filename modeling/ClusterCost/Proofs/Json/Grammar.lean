import ClusterCost.Proofs.Json.Number
import ClusterCost.Proofs.Json.Tree
import ClusterCost.Proofs.Text.Utf8

/-!
# The grammar of JSON texts

`Denotes input t rest` says that `input` starts with a written form of what the tree `t` says and
goes on with `rest`. Every form is allowed: blanks wherever the grammar has them, any of the escapes
of a character, and any number of digits. What is kept of a text is UTF-8 (`Denotes.leads`).
-/

namespace ClusterCost.Json

open Utf8 (Leads)

/-! ### Blanks and texts -/

/-- Some blanks, which may be none. -/
inductive Blanks : Bytes → Bytes → Prop
  | none (rest : Bytes) : Blanks rest rest
  | some {b : UInt8} {input rest : Bytes} (h : Scan.isBlank b = true) (more : Blanks input rest) :
      Blanks (b :: input) rest

/-- A character in a text: as it is, or escaped by a letter, by its code, or by the
codes of a pair. -/
inductive SpellsChar : Bytes → Char → Bytes → Prop
  | plain {c : Char} (hcontrol : 0x20 ≤ c.toNat) (hquote : c ≠ '"') (hslash : c ≠ '\\')
      (rest : Bytes) :
      SpellsChar (String.utf8EncodeChar c ++ rest) c rest
  | short {b : UInt8} {c : Char} (h : Scan.shortEscape? b = some c) (rest : Bytes) :
      SpellsChar (0x5C :: b :: rest) c rest
  | code {d₁ d₂ d₃ d₄ : UInt8} {unit : Nat} (h : Scan.hexUnit? [d₁, d₂, d₃, d₄] = some (some unit))
      (hhigh : Scan.isHigh unit = false) (hlow : Scan.isLow unit = false) (rest : Bytes) :
      SpellsChar (0x5C :: 0x75 :: d₁ :: d₂ :: d₃ :: d₄ :: rest) (Char.ofNat unit) rest
  | pair {d₁ d₂ d₃ d₄ d₅ d₆ d₇ d₈ : UInt8} {first second : Nat}
      (h₁ : Scan.hexUnit? [d₁, d₂, d₃, d₄] = some (some first))
      (hhigh : Scan.isHigh first = true) (h₂ : Scan.hexUnit? [d₅, d₆, d₇, d₈] = some (some second))
      (hlow : Scan.isLow second = true) (rest : Bytes) :
      SpellsChar
        (0x5C :: 0x75 :: d₁ :: d₂ :: d₃ :: d₄ :: 0x5C :: 0x75 :: d₅ :: d₆ :: d₇ :: d₈ :: rest)
        (Char.ofNat ((first - 0xD800) * 1024 + (second - 0xDC00) + 0x10000)) rest

/-- Half of a pair, without its other half. -/
def Lone (unit : Nat) (rest : Bytes) : Prop :=
  Scan.isLow unit = true ∨ Scan.isHigh unit = true ∧
    ∀ d₁ d₂ d₃ d₄ second more, Scan.hexUnit? [d₁, d₂, d₃, d₄] = some (some second) →
      Scan.isLow second = true →
      rest ≠ 0x5C :: 0x75 :: d₁ :: d₂ :: d₃ :: d₄ :: more

/-- The characters of a text, after its opening quote, and its closing quote. Half a pair, or a byte
with which no character starts, makes that the characters are not known. -/
inductive Spells : Bytes → Option (List Char) → Bytes → Prop
  | close (rest : Bytes) : Spells (0x22 :: rest) (some []) rest
  | char {input mid rest : Bytes} {c : Char} {cs : Option (List Char)} (h : SpellsChar input c mid)
      (more : Spells mid cs rest) :
      Spells input (cs.map (c :: ·)) rest
  | half {d₁ d₂ d₃ d₄ : UInt8} {unit : Nat} {mid rest : Bytes} {cs : Option (List Char)}
      (h : Scan.hexUnit? [d₁, d₂, d₃, d₄] = some (some unit)) (hlone : Lone unit mid)
      (more : Spells mid cs rest) :
      Spells (0x5C :: 0x75 :: d₁ :: d₂ :: d₃ :: d₄ :: mid) none rest
  | stray {b : UInt8} {mid rest : Bytes} {cs : Option (List Char)}
      (h : ∀ c tail, b :: mid ≠ String.utf8EncodeChar c ++ tail)
      (more : Spells mid cs rest) : Spells (b :: mid) none rest

/-! ### Values -/

mutual

/-- A value. -/
inductive Denotes : Bytes → Tree → Bytes → Prop
  | null (rest : Bytes) : Denotes (0x6E :: 0x75 :: 0x6C :: 0x6C :: rest) .null rest
  | yes (rest : Bytes) : Denotes (0x74 :: 0x72 :: 0x75 :: 0x65 :: rest) (.bool true) rest
  | no (rest : Bytes) : Denotes (0x66 :: 0x61 :: 0x6C :: 0x73 :: 0x65 :: rest) (.bool false) rest
  | number {input rest : Bytes} {l : Literal} (h : SpellsNumber input l rest) :
      Denotes input (.number l.value?.toOption) rest
  | text {input rest : Bytes} {cs : Option (List Char)} (h : Spells input cs rest) :
      Denotes (0x22 :: input) (.text (cs.map String.ofList)) rest
  | list {input rest : Bytes} {items : List Tree} (h : DenotesItems input items rest) :
      Denotes (0x5B :: input) (.list items) rest
  | object {input rest : Bytes} {members : List (Option String × Tree)}
      (h : DenotesMembers input members rest) :
      Denotes (0x7B :: input) (.object members) rest

/-- The items of a list, after its opening bracket, and its closing bracket. -/
inductive DenotesItems : Bytes → List Tree → Bytes → Prop
  | none {input rest : Bytes} (h : Blanks input (0x5D :: rest)) : DenotesItems input [] rest
  | some {input start mid next rest : Bytes} {t : Tree} {ts : List Tree}
      (hbefore : Blanks input start)
      (ht : Denotes start t mid) (hafter : Blanks mid next)
      (hmore : DenotesMoreItems next ts rest) :
      DenotesItems input (t :: ts) rest

/-- The same after an item, from a comma or the closing bracket. -/
inductive DenotesMoreItems : Bytes → List Tree → Bytes → Prop
  | none (rest : Bytes) : DenotesMoreItems (0x5D :: rest) [] rest
  | some {input start mid next rest : Bytes} {t : Tree} {ts : List Tree}
      (hbefore : Blanks input start)
      (ht : Denotes start t mid) (hafter : Blanks mid next)
      (hmore : DenotesMoreItems next ts rest) :
      DenotesMoreItems (0x2C :: input) (t :: ts) rest

/-- A key and its value. -/
inductive DenotesMember : Bytes → Option String × Tree → Bytes → Prop
  | intro {input mid next start rest : Bytes} {key : Option (List Char)} {t : Tree}
      (hkey : Spells input key mid)
      (hcolon : Blanks mid (0x3A :: next)) (hbefore : Blanks next start)
      (ht : Denotes start t rest) :
      DenotesMember (0x22 :: input) (key.map String.ofList, t) rest

/-- The members of an object, after its opening brace, and its closing brace. -/
inductive DenotesMembers : Bytes → List (Option String × Tree) → Bytes → Prop
  | none {input rest : Bytes} (h : Blanks input (0x7D :: rest)) : DenotesMembers input [] rest
  | some {input start mid next rest : Bytes} {m : Option String × Tree}
      {ms : List (Option String × Tree)}
      (hbefore : Blanks input start) (hm : DenotesMember start m mid) (hafter : Blanks mid next)
      (hmore : DenotesMoreMembers next ms rest) : DenotesMembers input (m :: ms) rest

/-- The same after a member, from a comma or the closing brace. -/
inductive DenotesMoreMembers : Bytes → List (Option String × Tree) → Bytes → Prop
  | none (rest : Bytes) : DenotesMoreMembers (0x7D :: rest) [] rest
  | some {input start mid next rest : Bytes} {m : Option String × Tree}
      {ms : List (Option String × Tree)}
      (hbefore : Blanks input start) (hm : DenotesMember start m mid) (hafter : Blanks mid next)
      (hmore : DenotesMoreMembers next ms rest) : DenotesMoreMembers (0x2C :: input) (m :: ms) rest

end

/-- A whole text and what it says. -/
def Says (text : Bytes) (t : Tree) : Prop :=
  ∃ start rest, Blanks text start ∧ Denotes start t rest ∧ Blanks rest []

/-- A whole text that says a value. -/
def Text (text : Bytes) (v : Value) : Prop := Says text v.tree

/-! ### The length of what is left -/

lemma Blanks.trans {a b c : Bytes} (h : Blanks a b) (h' : Blanks b c) : Blanks a c := by
  induction h with
  | none rest => exact h'
  | some hb more ih => exact .some hb (ih h')

lemma Blanks.length_le {input rest : Bytes} (h : Blanks input rest) :
    rest.length ≤ input.length := by
  induction h with
  | none rest => exact le_rfl
  | some hb more ih => exact Nat.le_succ_of_le ih

lemma SpellsChar.length_lt {input rest : Bytes} {c : Char} (h : SpellsChar input c rest) :
    rest.length < input.length := by
  cases h with
  | plain hcontrol hquote hslash rest =>
    obtain ⟨b, more, hb, -⟩ := Utf8.lead_encodeChar c rest
    rw [hb]
    simp only [List.length_cons, List.length_append]
    omega
  | short h rest => simp only [List.length_cons]; omega
  | code h hhigh hlow rest => simp only [List.length_cons]; omega
  | pair h₁ hhigh h₂ hlow rest => simp only [List.length_cons]; omega

lemma Spells.length_lt {input rest : Bytes} {cs : Option (List Char)} (h : Spells input cs rest) :
    rest.length < input.length := by
  induction h with
  | close rest => exact Nat.lt_succ_self _
  | char h more ih => exact ih.trans h.length_lt
  | half h hlone more ih => simp only [List.length_cons]; omega
  | stray h more ih => exact Nat.lt_succ_of_lt ih

mutual

lemma Denotes.length_lt {input rest : Bytes} {t : Tree} (h : Denotes input t rest) :
    rest.length < input.length := by
  cases h with
  | null rest => simp only [List.length_cons]; omega
  | yes rest => simp only [List.length_cons]; omega
  | no rest => simp only [List.length_cons]; omega
  | number h =>
    obtain ⟨b, more, rfl, -, hlen⟩ := h.first
    exact hlen
  | text h => exact Nat.lt_succ_of_lt h.length_lt
  | list h => exact Nat.lt_succ_of_lt h.length_lt
  | object h => exact Nat.lt_succ_of_lt h.length_lt

lemma DenotesItems.length_lt {input rest : Bytes} {ts : List Tree}
    (h : DenotesItems input ts rest) : rest.length < input.length := by
  cases h with
  | none h => exact lt_of_lt_of_le (Nat.lt_succ_self _) h.length_le
  | some hbefore ht hafter hmore =>
    have hlen := hbefore.length_le
    have hlen' := hafter.length_le
    have hitem := ht.length_lt
    have hrest := hmore.length_lt
    omega

lemma DenotesMoreItems.length_lt {input rest : Bytes} {ts : List Tree}
    (h : DenotesMoreItems input ts rest) : rest.length < input.length := by
  cases h with
  | none rest => exact Nat.lt_succ_self _
  | some hbefore ht hafter hmore =>
    have hlen := hbefore.length_le
    have hlen' := hafter.length_le
    have hitem := ht.length_lt
    have hrest := hmore.length_lt
    rw [List.length_cons]
    omega

lemma DenotesMember.length_lt {input rest : Bytes} {m : Option String × Tree}
    (h : DenotesMember input m rest) : rest.length < input.length := by
  cases h with
  | intro hkey hcolon hbefore ht =>
    have hlen := hcolon.length_le
    have hlen' := hbefore.length_le
    have htext := hkey.length_lt
    have hvalue := ht.length_lt
    simp only [List.length_cons] at hlen ⊢
    omega

lemma DenotesMembers.length_lt {input rest : Bytes} {ms : List (Option String × Tree)}
    (h : DenotesMembers input ms rest) : rest.length < input.length := by
  cases h with
  | none h => exact lt_of_lt_of_le (Nat.lt_succ_self _) h.length_le
  | some hbefore hm hafter hmore =>
    have hlen := hbefore.length_le
    have hlen' := hafter.length_le
    have hmember := hm.length_lt
    have hrest := hmore.length_lt
    omega

lemma DenotesMoreMembers.length_lt {input rest : Bytes} {ms : List (Option String × Tree)}
    (h : DenotesMoreMembers input ms rest) : rest.length < input.length := by
  cases h with
  | none rest => exact Nat.lt_succ_self _
  | some hbefore hm hafter hmore =>
    have hlen := hbefore.length_le
    have hlen' := hafter.length_le
    have hmember := hm.length_lt
    have hrest := hmore.length_lt
    rw [List.length_cons]
    omega

end

/-- A value starts with a byte that is neither a blank nor a closing bracket. -/
lemma Denotes.first {input rest : Bytes} {t : Tree} (h : Denotes input t rest) :
    ∃ b more, input = b :: more ∧ Scan.isBlank b = false ∧ (b == 0x5D) = false := by
  cases h with
  | null rest => exact ⟨_, _, rfl, rfl, rfl⟩
  | yes rest => exact ⟨_, _, rfl, rfl, rfl⟩
  | no rest => exact ⟨_, _, rfl, rfl, rfl⟩
  | number h =>
    obtain ⟨b, more, rfl, hb, -⟩ := h.first
    have hne := @beq_eq_false_of_number b hb
    have hblank : Scan.isBlank b = false := by
      rw [Scan.isBlank, hne 0x20, hne 0x0A, hne 0x09, hne 0x0D]
      rfl
    exact ⟨b, more, rfl, hblank, hne 0x5D⟩
  | text h => exact ⟨_, _, rfl, rfl, rfl⟩
  | list h => exact ⟨_, _, rfl, rfl, rfl⟩
  | object h => exact ⟨_, _, rfl, rfl, rfl⟩

lemma DenotesMoreItems.first {input rest : Bytes} {ts : List Tree}
    (h : DenotesMoreItems input ts rest) :
    ∃ b more, input = b :: more ∧ Scan.isBlank b = false := by
  cases h with
  | none rest => exact ⟨_, _, rfl, rfl⟩
  | some _ _ _ _ => exact ⟨_, _, rfl, rfl⟩

lemma DenotesMoreMembers.first {input rest : Bytes} {ms : List (Option String × Tree)}
    (h : DenotesMoreMembers input ms rest) :
    ∃ b more, input = b :: more ∧ Scan.isBlank b = false := by
  cases h with
  | none rest => exact ⟨_, _, rfl, rfl⟩
  | some _ _ _ _ => exact ⟨_, _, rfl, rfl⟩

/-! ### The bytes of what is kept -/

lemma Blanks.leads {input rest : Bytes} (h : Blanks input rest) : Leads input rest := by
  induction h with
  | none rest => rfl
  | @some b input rest hb more ih =>
    refine .cons ih ?_
    simp only [Scan.isBlank, Bool.or_eq_true, beq_iff_eq] at hb
    rcases hb with ((rfl | rfl) | rfl) | rfl <;> decide

lemma toNat_of_hexValue? {b : UInt8} {n : Nat} (h : Scan.hexValue? b = some n) :
    b.toNat < 0x80 := by
  simp only [Scan.hexValue?, UInt8.le_iff_toNat_le, UInt8.reduceToNat, Bool.and_eq_true,
    decide_eq_true_eq] at h
  split_ifs at h <;> omega

/-- The digits of a code are ASCII. -/
lemma leads_digits {d₁ d₂ d₃ d₄ : UInt8} {unit : Nat}
    (h : Scan.hexUnit? [d₁, d₂, d₃, d₄] = some (some unit)) {input rest : Bytes}
    (more : Leads input rest) : Leads (d₁ :: d₂ :: d₃ :: d₄ :: input) rest := by
  simp only [Scan.hexUnit?, Option.some.injEq, Option.bind_eq_bind, Option.bind_eq_some_iff] at h
  obtain ⟨n₁, h₁, n₂, h₂, n₃, h₃, n₄, h₄, -⟩ := h
  have hlast := Leads.cons (.cons more (toNat_of_hexValue? h₄)) (toNat_of_hexValue? h₃)
  exact .cons (.cons hlast (toNat_of_hexValue? h₂)) (toNat_of_hexValue? h₁)

lemma toNat_of_shortEscape? {b : UInt8} {c : Char} (h : Scan.shortEscape? b = some c) :
    b.toNat < 0x80 := by
  by_contra hb
  have hne := @Utf8.beq_eq_false_of_ge b (Nat.le_of_not_lt hb)
  rw [Scan.shortEscape?, hne 0x22, hne 0x5C, hne 0x2F, hne 0x62, hne 0x66, hne 0x6E, hne 0x72,
    hne 0x74] at h
  cases h

lemma SpellsChar.leads {input rest : Bytes} {c : Char} (h : SpellsChar input c rest) :
    Leads input rest := by
  cases h with
  | plain _ _ _ rest => exact .char c rest
  | short h rest => exact .cons (.cons (.refl rest) (toNat_of_shortEscape? h))
  | code h _ _ rest =>
    exact .cons (.cons (leads_digits h (.refl rest)))
  | pair h _ h' _ rest =>
    exact .cons (.cons (leads_digits h (.cons (.cons (leads_digits h' (.refl rest))))))

lemma Spells.leads {input rest : Bytes} {cs : Option (List Char)} (h : Spells input cs rest)
    (hkept : cs ≠ none) : Leads input rest := by
  induction h with
  | close rest => exact .cons (.refl rest)
  | @char input mid rest c cs h more ih =>
    exact h.leads.trans (ih fun hnone => hkept (by rw [hnone]; rfl))
  | half h hlone more ih => exact absurd rfl hkept
  | stray h more ih => exact absurd rfl hkept

lemma AllDigits.leads {digits rest : Bytes} (h : AllDigits digits) :
    Leads (digits ++ rest) rest := by
  induction digits with
  | nil => exact .refl rest
  | cons d digits ih =>
    obtain ⟨hd, hdigits⟩ := List.forall_mem_cons.mp h
    exact .cons (ih hdigits) (by have := isDigit_iff.mp hd; omega)

lemma SpellsNumber.leads {input rest : Bytes} {l : Literal} (h : SpellsNumber input l rest) :
    Leads input rest := by
  have hparts :
      ∀ {input mid next whole : Bytes} {fraction : Option Bytes} {exponent : Option (Bool × Bytes)},
      Whole input whole mid → Fraction mid fraction next → Exponent next exponent rest →
      Leads input rest := by
    intro input mid next whole fraction exponent hwhole hfraction hexponent
    refine Leads.trans (b := mid) ?_ (Leads.trans (b := next) ?_ ?_)
    · cases hwhole with
      | zero h => exact .cons (.refl _)
      | other hd hzero hdigits h => exact .cons hdigits.leads (by have := isDigit_iff.mp hd; omega)
    · cases hfraction with
      | none h => exact .refl _
      | some hsome hdigits h => exact .cons hdigits.leads
    · cases hexponent with
      | none h => exact .refl _
      | some hmark hsign hsome hdigits h =>
        refine .cons ?_ (by rcases hmark with rfl | rfl <;> decide)
        cases hsign with
        | none => exact hdigits.leads
        | plus => exact .cons hdigits.leads
        | minus => exact .cons hdigits.leads
  cases h with
  | positive hwhole hfraction hexponent => exact hparts hwhole hfraction hexponent
  | negative hwhole hfraction hexponent => exact .cons (hparts hwhole hfraction hexponent)

mutual

lemma Denotes.leads {input rest : Bytes} {t : Tree} (h : Denotes input t rest) {room : Nat}
    (hkept : t.Kept room) : Leads input rest := by
  cases h with
  | null rest => exact .cons (.cons (.cons (.cons (.refl rest))))
  | yes rest => exact .cons (.cons (.cons (.cons (.refl rest))))
  | no rest => exact .cons (.cons (.cons (.cons (.cons (.refl rest)))))
  | number h => exact h.leads
  | @text input rest cs h =>
    refine .cons (h.leads ?_)
    rintro rfl
    cases hkept
  | list h =>
    cases hkept with
    | list hkept => exact .cons (h.leads hkept)
  | object h =>
    cases hkept with
    | object hkeys hkept => exact .cons (h.leads hkeys hkept)

lemma DenotesItems.leads {input rest : Bytes} {ts : List Tree} (h : DenotesItems input ts rest)
    {room : Nat} (hkept : ∀ t ∈ ts, t.Kept room) : Leads input rest := by
  cases h with
  | none h => exact h.leads.trans (.cons (.refl rest))
  | some hbefore ht hafter hmore =>
    obtain ⟨hitem, hrest⟩ := List.forall_mem_cons.mp hkept
    exact hbefore.leads.trans ((ht.leads hitem).trans (hafter.leads.trans (hmore.leads hrest)))

lemma DenotesMoreItems.leads {input rest : Bytes} {ts : List Tree}
    (h : DenotesMoreItems input ts rest) {room : Nat} (hkept : ∀ t ∈ ts, t.Kept room) :
    Leads input rest := by
  cases h with
  | none rest => exact .cons (.refl rest)
  | some hbefore ht hafter hmore =>
    obtain ⟨hitem, hrest⟩ := List.forall_mem_cons.mp hkept
    exact .cons (hbefore.leads.trans
      ((ht.leads hitem).trans (hafter.leads.trans (hmore.leads hrest))))

lemma DenotesMember.leads {input rest : Bytes} {m : Option String × Tree}
    (h : DenotesMember input m rest) {room : Nat} (hkey : m.1 ≠ none) (hkept : m.2.Kept room) :
    Leads input rest := by
  cases h with
  | intro htext hcolon hbefore ht =>
    refine .cons ((htext.leads ?_).trans
      (hcolon.leads.trans (.cons (hbefore.leads.trans (ht.leads hkept)))))
    rintro rfl
    exact hkey rfl

lemma DenotesMembers.leads {input rest : Bytes} {ms : List (Option String × Tree)}
    (h : DenotesMembers input ms rest) {room : Nat} (hkeys : ∀ m ∈ ms, m.1 ≠ none)
    (hkept : ∀ m ∈ ms, m.2.Kept room) : Leads input rest := by
  cases h with
  | none h => exact h.leads.trans (.cons (.refl rest))
  | some hbefore hm hafter hmore =>
    obtain ⟨hkey, hkeys⟩ := List.forall_mem_cons.mp hkeys
    obtain ⟨hmember, hkept⟩ := List.forall_mem_cons.mp hkept
    exact hbefore.leads.trans
      ((hm.leads hkey hmember).trans (hafter.leads.trans (hmore.leads hkeys hkept)))

lemma DenotesMoreMembers.leads {input rest : Bytes} {ms : List (Option String × Tree)}
    (h : DenotesMoreMembers input ms rest) {room : Nat} (hkeys : ∀ m ∈ ms, m.1 ≠ none)
    (hkept : ∀ m ∈ ms, m.2.Kept room) : Leads input rest := by
  cases h with
  | none rest => exact .cons (.refl rest)
  | some hbefore hm hafter hmore =>
    obtain ⟨hkey, hkeys⟩ := List.forall_mem_cons.mp hkeys
    obtain ⟨hmember, hkept⟩ := List.forall_mem_cons.mp hkept
    exact .cons (hbefore.leads.trans ((hm.leads hkey hmember).trans
      (hafter.leads.trans (hmore.leads hkeys hkept))))

end

/-- A text that is kept is UTF-8. -/
theorem Says.utf8 {text : Bytes} {t : Tree} (h : Says text t) {room : Nat} (hkept : t.Kept room) :
    ∃ s, Utf8.encode s = text := by
  obtain ⟨start, rest, hbefore, ht, hafter⟩ := h
  obtain ⟨s, hs⟩ := hbefore.leads.trans ((ht.leads hkept).trans hafter.leads)
  exact ⟨s, by rw [hs, List.append_nil]⟩

/-- A text that says a value is UTF-8. -/
theorem Text.utf8 {text : Bytes} {v : Value} (h : Text text v) : ∃ s, Utf8.encode s = text := by
  obtain ⟨room, hkept⟩ := v.kept_tree
  exact Says.utf8 h hkept

end ClusterCost.Json
