import ClusterCost.Proofs.Json.Scan

/-!
# Texts that are cut short

What stands at the start of a text stands there also when the text goes on (`Denotes.append`),
unless it is a number at the very end. So no text that breaks off before the end of its object says
anything (`Denotes.not_says_of_prefix`).
-/

namespace ClusterCost.Json

/-! ### Numbers -/

lemma head?_append {α : Type} {rest : List α} (h : rest ≠ []) (more : List α) :
    (rest ++ more).head? = rest.head? := by
  cases rest with
  | nil => exact absurd rfl h
  | cons a rest => rfl

section Numbers

variable {input mid rest : Bytes}

lemma NoDigit.append (h : NoDigit rest) (hrest : rest ≠ []) (more : Bytes) :
    NoDigit (rest ++ more) := by
  rwa [NoDigit, head?_append hrest]

lemma Whole.append {whole : Bytes} (h : Whole input whole rest) (hrest : rest ≠ []) (more : Bytes) :
    Whole (input ++ more) whole (rest ++ more) := by
  cases h with
  | zero h => exact .zero (h.append hrest more)
  | other hd hzero hdigits h =>
    rw [List.cons_append, List.append_assoc]
    exact .other hd hzero hdigits (h.append hrest more)

lemma Fraction.append {fraction : Option Bytes} (h : Fraction input fraction rest)
    (hrest : rest ≠ []) (more : Bytes) :
    input ≠ [] ∧ Fraction (input ++ more) fraction (rest ++ more) := by
  cases h with
  | none h => exact ⟨hrest, .none (by rwa [head?_append hrest])⟩
  | some hsome hdigits h =>
    rw [List.cons_append, List.append_assoc]
    exact ⟨List.cons_ne_nil _ _, .some hsome hdigits (h.append hrest more)⟩

lemma Exponent.append {exponent : Option (Bool × Bytes)} (h : Exponent input exponent rest)
    (hrest : rest ≠ []) (more : Bytes) :
    input ≠ [] ∧ Exponent (input ++ more) exponent (rest ++ more) := by
  cases h with
  | none h => exact ⟨hrest, .none (by rwa [head?_append hrest])⟩
  | some hmark hsign hsome hdigits h =>
    rw [List.cons_append, List.append_assoc, List.append_assoc]
    exact ⟨List.cons_ne_nil _ _, .some hmark hsign hsome hdigits (h.append hrest more)⟩

/-- A number that something follows is the same number when the text goes on. -/
lemma SpellsNumber.append {l : Literal} (h : SpellsNumber input l rest) (hrest : rest ≠ [])
    (more : Bytes) : SpellsNumber (input ++ more) l (rest ++ more) := by
  cases h with
  | positive hwhole hfraction hexponent =>
    obtain ⟨hnext, hexponent⟩ := hexponent.append hrest more
    obtain ⟨hmid, hfraction⟩ := hfraction.append hnext more
    exact .positive (hwhole.append hmid more) hfraction hexponent
  | negative hwhole hfraction hexponent =>
    obtain ⟨hnext, hexponent⟩ := hexponent.append hrest more
    obtain ⟨hmid, hfraction⟩ := hfraction.append hnext more
    exact .negative (hwhole.append hmid more) hfraction hexponent

end Numbers

/-! ### Texts -/

section Texts

variable {input mid rest : Bytes} {c : Char} {cs : Option (List Char)}

lemma SpellsChar.append (h : SpellsChar input c rest) (more : Bytes) :
    SpellsChar (input ++ more) c (rest ++ more) := by
  cases h with
  | plain hcontrol hquote hslash rest =>
    rw [List.append_assoc]
    exact .plain hcontrol hquote hslash (rest ++ more)
  | short h rest => exact .short h (rest ++ more)
  | code h hhigh hlow rest => exact .code h hhigh hlow (rest ++ more)
  | pair h₁ hhigh h₂ hlow rest => exact .pair h₁ hhigh h₂ hlow (rest ++ more)

lemma SpellsChar.mem_of_mem (h : SpellsChar input c rest) {b : UInt8} (hb : b ∈ rest) :
    b ∈ input := by
  cases h with
  | plain _ _ _ rest => exact List.mem_append_right _ hb
  | short h rest => simp [hb]
  | code h _ _ rest => simp [hb]
  | pair h _ h' _ rest => simp [hb]

/-- Somewhere in a text is its closing quote. -/
lemma Spells.quote_mem (h : Spells input cs rest) : 0x22 ∈ input := by
  induction h with
  | close rest => exact List.mem_cons_self
  | char h more ih => exact h.mem_of_mem ih
  | half h hlone more ih => simp [ih]
  | stray h more ih => exact List.mem_cons_of_mem _ ih

/-- Only the backslash starts with the byte of the backslash. -/
lemma eq_backslash {tail more : Bytes} (h : String.utf8EncodeChar c ++ tail = 0x5C :: more) :
    c = '\\' := by
  obtain ⟨hascii, hbytes⟩ | ⟨-, hbytes⟩ := Utf8.encodeChar_cases c
  · rw [hbytes] at h
    have hbyte := congrArg UInt8.toNat (List.cons.inj h).1
    rw [Utf8.toNat_ofNat (by omega)] at hbyte
    exact Char.toNat_inj.mp hbyte
  · obtain ⟨b, rest, hb, -⟩ := Utf8.lead_encodeChar c []
    rw [hb] at h hbytes
    have hlarge := hbytes b List.mem_cons_self
    rw [(List.cons.inj h).1] at hlarge
    exact absurd hlarge (by decide)

/-- A text that goes on with an escape by a code has the whole code. -/
lemma Spells.of_code {d₁ d₂ d₃ d₄ : UInt8} {more tail : Bytes} (h : Spells mid cs rest)
    (heq : mid ++ more = 0x5C :: 0x75 :: d₁ :: d₂ :: d₃ :: d₄ :: tail) :
    ∃ next, mid = 0x5C :: 0x75 :: d₁ :: d₂ :: d₃ :: d₄ :: next := by
  cases h with
  | close rest => cases heq
  | char h _ =>
    cases h with
    | plain hcontrol hquote hslash rest =>
      rw [List.append_assoc] at heq
      exact absurd (eq_backslash heq) hslash
    | short h rest =>
      simp only [List.cons_append, List.cons.injEq, true_and] at heq
      rw [heq.1] at h
      cases h
    | code h hhigh hlow rest =>
      simp only [List.cons_append, List.cons.injEq, true_and] at heq
      obtain ⟨rfl, rfl, rfl, rfl, -⟩ := heq
      exact ⟨_, rfl⟩
    | pair h₁ hhigh h₂ hlow rest =>
      simp only [List.cons_append, List.cons.injEq, true_and] at heq
      obtain ⟨rfl, rfl, rfl, rfl, -⟩ := heq
      exact ⟨_, rfl⟩
  | half h hlone _ =>
    simp only [List.cons_append, List.cons.injEq, true_and] at heq
    obtain ⟨rfl, rfl, rfl, rfl, -⟩ := heq
    exact ⟨_, rfl⟩
  | stray h _ =>
    obtain ⟨rfl, -⟩ := List.cons.inj heq
    exact absurd rfl (h '\\' _)

lemma Lone.append {unit : Nat} (hlone : Lone unit mid) (h : Spells mid cs rest) (more : Bytes) :
    Lone unit (mid ++ more) := by
  obtain hlow | ⟨hhigh, hpair⟩ := hlone
  · exact .inl hlow
  · refine .inr ⟨hhigh, ?_⟩
    intro d₁ d₂ d₃ d₄ second tail hunit hlow heq
    obtain ⟨next, hnext⟩ := h.of_code heq
    exact hpair d₁ d₂ d₃ d₄ second next hunit hlow hnext

/-- A byte with which no character starts still starts none when the text goes on: a character that
was not whole has no byte of ASCII, so it does not go beyond the closing quote. -/
lemma Spells.stray_append {b : UInt8} (h : Spells mid cs rest)
    (hstray : ∀ c tail, b :: mid ≠ String.utf8EncodeChar c ++ tail) (more : Bytes) (c : Char)
    (tail : Bytes) : b :: (mid ++ more) ≠ String.utf8EncodeChar c ++ tail := by
  intro heq
  obtain ⟨-, hbytes⟩ | ⟨-, hbytes⟩ := Utf8.encodeChar_cases c
  · rw [hbytes] at heq
    obtain ⟨hb, -⟩ := List.cons.inj heq
    exact hstray c mid (by rw [hbytes, hb, List.singleton_append])
  · rw [← List.cons_append, List.append_eq_append_iff] at heq
    obtain ⟨front, hlong, -⟩ | ⟨front, hshort, -⟩ := heq
    · have hquote := hbytes 0x22
      rw [hlong] at hquote
      have hlarge := hquote (List.mem_append_left _ (List.mem_cons_of_mem _ h.quote_mem))
      exact absurd hlarge (by decide)
    · exact hstray c front hshort

lemma Spells.append (h : Spells input cs rest) (more : Bytes) :
    Spells (input ++ more) cs (rest ++ more) := by
  induction h with
  | close rest => exact .close (rest ++ more)
  | char h _ ih => exact .char (h.append more) ih
  | half h hlone next ih => exact .half h (hlone.append next more) ih
  | stray h next ih => exact .stray (next.stray_append h more) ih

end Texts

/-! ### Values -/

lemma Blanks.append {input rest : Bytes} (h : Blanks input rest) (more : Bytes) :
    Blanks (input ++ more) (rest ++ more) := by
  induction h with
  | none rest => exact .none _
  | some hb _ ih => exact .some hb ih

lemma Blanks.ne_nil {input rest : Bytes} (h : Blanks input rest) (hrest : rest ≠ []) :
    input ≠ [] := by
  cases h with
  | none rest => exact hrest
  | some _ _ => exact List.cons_ne_nil _ _

lemma DenotesMoreItems.ne_nil {input rest : Bytes} {ts : List Tree}
    (h : DenotesMoreItems input ts rest) : input ≠ [] := by
  obtain ⟨b, more, rfl, -⟩ := h.first
  exact List.cons_ne_nil b more

lemma DenotesMoreMembers.ne_nil {input rest : Bytes} {ms : List (Option String × Tree)}
    (h : DenotesMoreMembers input ms rest) : input ≠ [] := by
  obtain ⟨b, more, rfl, -⟩ := h.first
  exact List.cons_ne_nil b more

mutual

/-- A value that is no number, or that something follows, is the same when the text goes on. -/
lemma Denotes.append {input rest : Bytes} {t : Tree} (h : Denotes input t rest)
    (hend : (∀ n, t ≠ .number n) ∨ rest ≠ []) (more : Bytes) :
    Denotes (input ++ more) t (rest ++ more) := by
  cases h with
  | null rest => exact .null _
  | yes rest => exact .yes _
  | no rest => exact .no _
  | number h =>
    obtain hnot | hrest := hend
    · exact absurd rfl (hnot _)
    · exact .number (h.append hrest more)
  | text h => exact .text (h.append more)
  | list h => exact .list (h.append more)
  | object h => exact .object (h.append more)

lemma DenotesItems.append {input rest : Bytes} {ts : List Tree} (h : DenotesItems input ts rest)
    (more : Bytes) : DenotesItems (input ++ more) ts (rest ++ more) := by
  cases h with
  | none h => exact .none (h.append more)
  | some hbefore ht hafter hmore =>
    have hmid := hafter.ne_nil hmore.ne_nil
    exact .some (hbefore.append more) (ht.append (.inr hmid) more) (hafter.append more)
      (hmore.append more)

lemma DenotesMoreItems.append {input rest : Bytes} {ts : List Tree}
    (h : DenotesMoreItems input ts rest) (more : Bytes) :
    DenotesMoreItems (input ++ more) ts (rest ++ more) := by
  cases h with
  | none rest => exact .none _
  | some hbefore ht hafter hmore =>
    have hmid := hafter.ne_nil hmore.ne_nil
    exact .some (hbefore.append more) (ht.append (.inr hmid) more) (hafter.append more)
      (hmore.append more)

lemma DenotesMember.append {input rest : Bytes} {m : Option String × Tree}
    (h : DenotesMember input m rest) (hrest : rest ≠ []) (more : Bytes) :
    DenotesMember (input ++ more) m (rest ++ more) := by
  cases h with
  | intro hkey hcolon hbefore ht =>
    exact .intro (hkey.append more) (hcolon.append more) (hbefore.append more)
      (ht.append (.inr hrest) more)

lemma DenotesMembers.append {input rest : Bytes} {ms : List (Option String × Tree)}
    (h : DenotesMembers input ms rest) (more : Bytes) :
    DenotesMembers (input ++ more) ms (rest ++ more) := by
  cases h with
  | none h => exact .none (h.append more)
  | some hbefore hm hafter hmore =>
    have hmid := hafter.ne_nil hmore.ne_nil
    exact .some (hbefore.append more) (hm.append hmid more) (hafter.append more)
      (hmore.append more)

lemma DenotesMoreMembers.append {input rest : Bytes} {ms : List (Option String × Tree)}
    (h : DenotesMoreMembers input ms rest) (more : Bytes) :
    DenotesMoreMembers (input ++ more) ms (rest ++ more) := by
  cases h with
  | none rest => exact .none _
  | some hbefore hm hafter hmore =>
    have hmid := hafter.ne_nil hmore.ne_nil
    exact .some (hbefore.append more) (hm.append hmid more) (hafter.append more)
      (hmore.append more)

end

/-! ### Texts that break off -/

section Cut

variable {input rest text cut : Bytes} {t t' : Tree}

/-- Where a value ends is told by the text alone. -/
lemma Denotes.rest_unique {rest' : Bytes} (h : Denotes input t rest) (h' : Denotes input t' rest') :
    rest = rest' := by
  obtain ⟨o, place, hscan, -⟩ := Scan.scanValue_of_denotes h (.none _) _ le_rfl 0
  obtain ⟨o', place', hscan', -⟩ := Scan.scanValue_of_denotes h' (.none _) _ le_rfl 0
  cases hscan.symm.trans hscan'
  rfl

/-- What starts with an opening brace is no number. -/
lemma Denotes.ne_number (h : Denotes (0x7B :: input) t rest) (n : Option Number) :
    t ≠ .number n := by
  rintro rfl
  cases h with
  | number h =>
    obtain ⟨b, more, heq, hb, -⟩ := h.first
    rw [← (List.cons.inj heq).1] at hb
    revert hb
    decide

lemma Denotes.brace {b : UInt8} {ms : List (Option String × Tree)}
    (h : Denotes (b :: input) (.object ms) rest) : b = 0x7B := by
  cases h
  rfl

/-- A text of an object that breaks off before the closing brace says nothing. -/
theorem Denotes.not_says_of_prefix {ms : List (Option String × Tree)}
    (h : Denotes text (.object ms) []) (hcut : cut <+: text) (hne : cut ≠ text) : ¬ Says cut t := by
  rintro ⟨start, rest, hblanks, ht, -⟩
  obtain ⟨more, rfl⟩ := hcut
  have hmore : more ≠ [] := by
    rintro rfl
    exact hne (List.append_nil _).symm
  obtain ⟨b, next, hfirst, hblank, -⟩ := h.first
  cases cut with
  | nil =>
    have hlength := ht.length_lt
    have hle := hblanks.length_le
    simp only [List.length_nil] at hle
    omega
  | cons b' cut =>
    obtain ⟨rfl, -⟩ := List.cons.inj hfirst
    have hstart : start = b' :: cut := by
      cases hblanks with
      | none rest => rfl
      | some hb _ => cases hb.symm.trans hblank
    subst hstart
    obtain rfl := h.brace
    have hempty := h.rest_unique (ht.append (.inl ht.ne_number) more)
    exact hmore (List.append_eq_nil_iff.mp hempty.symm).2

end Cut

end ClusterCost.Json
