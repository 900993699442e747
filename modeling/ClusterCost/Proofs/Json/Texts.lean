import ClusterCost.Proofs.Json.Grammar

/-!
# Scanning texts

A scan of a text finds just the texts of the grammar: it finds every one and stops where it ends
(`scanText_of_spells`), and what it finds is one (`spells_of_scanText`).
-/

namespace ClusterCost.Json

namespace Scan

/-! ### Blanks -/

lemma skipBlank_cons {b : UInt8} (hb : isBlank b = false) (rest : Bytes) (place : Nat) :
    skipBlank (b :: rest) place = ⟨b :: rest, place⟩ := by
  rw [skipBlank, if_neg (by rw [hb]; exact Bool.false_ne_true)]

lemma skipBlank_of_blanks {input rest : Bytes} (h : Blanks input rest)
    (hstop : ∀ place, skipBlank rest place = ⟨rest, place⟩) (place : Nat) :
    ∃ place', skipBlank input place = ⟨rest, place'⟩ := by
  induction h generalizing place with
  | none rest => exact ⟨place, hstop place⟩
  | some hblank more ih =>
    obtain ⟨place', hp⟩ := ih hstop (place + 1)
    exact ⟨place', by rw [skipBlank, if_pos hblank, hp]⟩

lemma skipBlank_eq {input rest : Bytes} {b : UInt8} (h : Blanks input (b :: rest))
    (hb : isBlank b = false) (place : Nat) :
    ∃ place', skipBlank input place = ⟨b :: rest, place'⟩ :=
  skipBlank_of_blanks h (skipBlank_cons hb rest) place

/-! ### Texts -/

variable {e : Ending}

lemma scanText_skip (seen : List Char) (bad : Option Failure) (bytes rest : Bytes) (place : Nat) :
    scanText e seen bad bytes.length (bytes ++ rest) place =
      scanText e seen bad 0 rest (place + bytes.length) := by
  induction bytes generalizing place with
  | nil => rfl
  | cons b more ih =>
    have hstep : scanText e seen bad (b :: more).length (b :: more ++ rest) place =
        scanText e seen bad more.length (more ++ rest) (place + 1) := rfl
    rw [hstep, ih, List.length_cons, Nat.add_assoc, Nat.add_comm 1]

lemma scanText_short {b : UInt8} {c : Char} (h : shortEscape? b = some c) (seen : List Char)
    (bad : Option Failure) (rest : Bytes) (place : Nat) :
    scanText e seen bad 0 (0x5C :: b :: rest) place =
      scanText e (c :: seen) bad 0 rest (place + 2) := by
  simp only [shortEscape?, beq_iff_eq] at h
  split_ifs at h <;> subst_vars <;> cases h <;> rfl

lemma hexUnit?_append {d₁ d₂ d₃ d₄ : UInt8} {unit : Nat}
    (h : hexUnit? [d₁, d₂, d₃, d₄] = some (some unit)) (rest : Bytes) :
    hexUnit? (d₁ :: d₂ :: d₃ :: d₄ :: rest) = some (some unit) := h

/-- A character that needs no escape starts with none of the bytes that mean something
else in a text. -/
lemma plain_first {c : Char} (hcontrol : 0x20 ≤ c.toNat) (hquote : c ≠ '"') (hslash : c ≠ '\\')
    {b : UInt8} {more : Bytes} (h : String.utf8EncodeChar c = b :: more) :
    (b == 0x22) = false ∧ (b == 0x5C) = false ∧ ¬ b < 0x20 := by
  have hne : c.toNat ≠ 0x22 ∧ c.toNat ≠ 0x5C := by
    constructor
    · intro hc
      exact hquote (Char.toNat_inj.mp hc)
    · intro hc
      exact hslash (Char.toNat_inj.mp hc)
  have hb : b.toNat = c.toNat ∨ 0x80 ≤ b.toNat := by
    rcases Utf8.encodeChar_cases c with ⟨hascii, hc⟩ | ⟨_, hbytes⟩
    · rw [h, List.cons.injEq] at hc
      rw [hc.1]
      exact .inl (Utf8.toNat_ofNat (by omega))
    · exact .inr (hbytes b (by simp [h]))
  simp only [beq_eq_false_iff_ne, ne_eq, ← UInt8.toNat_inj, UInt8.lt_iff_toNat_lt,
    UInt8.reduceToNat]
  omega

lemma scanText_char {input rest : Bytes} {c : Char} (h : SpellsChar input c rest) (seen : List Char)
    (bad : Option Failure) (place : Nat) :
    ∃ place', scanText e seen bad 0 input place = scanText e (c :: seen) bad 0 rest place' := by
  cases h with
  | plain hcontrol hquote hslash rest =>
    obtain ⟨b, more, hb, hlead⟩ := Utf8.lead_encodeChar c rest
    obtain ⟨hb₁, hb₂, hb₃⟩ := plain_first hcontrol hquote hslash hb
    refine ⟨place + 1 + more.length, ?_⟩
    have hstep : scanText e seen bad 0 (b :: (more ++ rest)) place =
        scanText e (c :: seen) bad more.length (more ++ rest) (place + 1) := by
      rw [scanText.eq_def]
      simp [hb₁, hb₂, hb₃, hlead]
    rw [hb, List.cons_append, hstep]
    exact scanText_skip _ _ more rest _
  | short h rest => exact ⟨_, scanText_short h seen bad rest place⟩
  | @code d₁ d₂ d₃ d₄ unit h hhigh hlow rest =>
    refine ⟨place + 1 + 5, ?_⟩
    have hstep : scanText e seen bad 0 (0x5C :: 0x75 :: d₁ :: d₂ :: d₃ :: d₄ :: rest) place =
        scanText e (Char.ofNat unit :: seen) bad 5 ([0x75, d₁, d₂, d₃, d₄] ++ rest)
          (place + 1) := by
      rw [scanText]
      simp [hexUnit?_append h, unitChar, hhigh, hlow]
    rw [hstep]
    exact scanText_skip _ _ [0x75, d₁, d₂, d₃, d₄] rest _
  | @pair d₁ d₂ d₃ d₄ d₅ d₆ d₇ d₈ first second h₁ hhigh h₂ hlow rest =>
    refine ⟨place + 1 + 11, ?_⟩
    have hfirst : isLow first = false := by
      simp only [isHigh, isLow, Bool.and_eq_true, decide_eq_true_eq, Bool.and_eq_false_iff,
        decide_eq_false_iff_not] at hhigh ⊢
      omega
    have hstep : scanText e seen bad 0
        (0x5C :: 0x75 :: d₁ :: d₂ :: d₃ :: d₄ :: 0x5C :: 0x75 :: d₅ :: d₆ :: d₇ :: d₈ :: rest)
          place =
        scanText e (Char.ofNat ((first - 0xD800) * 1024 + (second - 0xDC00) + 0x10000) :: seen) bad
          11
          ([0x75, d₁, d₂, d₃, d₄, 0x5C, 0x75, d₅, d₆, d₇, d₈] ++ rest) (place + 1) := by
      rw [scanText]
      simp [hexUnit?_append h₁, hexUnit?_append h₂, unitChar, secondUnit, hhigh, hlow, hfirst,
        Except.map]
    rw [hstep]
    exact scanText_skip _ _ [0x75, d₁, d₂, d₃, d₄, 0x5C, 0x75, d₅, d₆, d₇, d₈] rest _

/-- The second unit of a pair is escaped next to the first. -/
lemma secondUnit_eq_ok {bytes : Bytes} {place second : Nat}
    (h : secondUnit e bytes place = .ok second) :
    ∃ d₁ d₂ d₃ d₄ more, bytes = 0x5C :: 0x75 :: d₁ :: d₂ :: d₃ :: d₄ :: more ∧
      hexUnit? [d₁, d₂, d₃, d₄] = some (some second) ∧ isLow second = true := by
  unfold secondUnit at h
  split at h
  · cases h
  · cases h
  · rename_i digits
    split at h
    · cases h
    · cases h
    · rename_i unit hunit
      split_ifs at h with hlow
      cases h
      match digits, hunit with
      | d₁ :: d₂ :: d₃ :: d₄ :: more, hunit => exact ⟨d₁, d₂, d₃, d₄, more, rfl, hunit, hlow⟩
  · cases h
  · cases h

/-- No character is made of half a pair. -/
lemma unitChar_of_lone {unit : Nat} {bytes : Bytes} (h : Lone unit bytes) (place : Nat) :
    ∃ failure, unitChar e unit bytes place = .error failure := by
  rw [unitChar]
  rcases h with hlow | ⟨hhigh, hnext⟩
  · exact ⟨_, if_pos hlow⟩
  · by_cases hlow : isLow unit = true
    · exact ⟨_, if_pos hlow⟩
    · rw [if_neg hlow, if_pos hhigh]
      cases hsecond : secondUnit e bytes place with
      | error failure => exact ⟨failure, rfl⟩
      | ok second =>
        obtain ⟨d₁, d₂, d₃, d₄, more, hbytes, hunit, hlow₂⟩ := secondUnit_eq_ok hsecond
        exact absurd hbytes (hnext d₁ d₂ d₃ d₄ second more hunit hlow₂)

lemma scanText_half {d₁ d₂ d₃ d₄ : UInt8} {unit : Nat} {mid : Bytes}
    (h : hexUnit? [d₁, d₂, d₃, d₄] = some (some unit))
    (hlone : Lone unit mid) (seen : List Char) (bad : Option Failure) (place : Nat) :
    ∃ failure place', scanText e seen bad 0 (0x5C :: 0x75 :: d₁ :: d₂ :: d₃ :: d₄ :: mid) place =
      scanText e seen (some failure) 0 mid place' := by
  obtain ⟨failure, hunit⟩ := unitChar_of_lone (e := e) hlone (place + 6)
  refine ⟨bad.getD failure, place + 1 + 5, ?_⟩
  have hbad : bad.or (some failure) = some (bad.getD failure) := by cases bad <;> rfl
  have hstep : scanText e seen bad 0 (0x5C :: 0x75 :: d₁ :: d₂ :: d₃ :: d₄ :: mid) place =
      scanText e seen (bad.or (some failure)) 5 ([0x75, d₁, d₂, d₃, d₄] ++ mid) (place + 1) := by
    rw [scanText]
    simp [hexUnit?_append h, hunit]
  rw [hstep, hbad]
  exact scanText_skip _ _ [0x75, d₁, d₂, d₃, d₄] mid _

/-- A byte of ASCII is a character. -/
lemma exists_char {b : UInt8} (h : b.toNat < 0x80) (rest : Bytes) :
    ∃ c tail, b :: rest = String.utf8EncodeChar c ++ tail := by
  have hlead : Utf8.lead b rest = .char (Char.ofNat b.toNat) 1 := by
    rw [Utf8.lead, Utf8.lengthOf_one h]
  obtain ⟨more, tail, hc, htail, -⟩ := Utf8.encodeChar_of_lead hlead
  exact ⟨_, tail, by rw [hc, htail, List.cons_append]⟩

lemma scanText_stray {b : UInt8} {mid : Bytes}
    (h : ∀ c tail, b :: mid ≠ String.utf8EncodeChar c ++ tail) (seen : List Char)
    (bad : Option Failure) (place : Nat) :
    ∃ failure place',
      scanText e seen bad 0 (b :: mid) place = scanText e seen (some failure) 0 mid place' := by
  have hb : 0x80 ≤ b.toNat := by
    by_contra hb
    obtain ⟨c, tail, hc⟩ := exists_char (Nat.lt_of_not_le hb) mid
    exact h c tail hc
  have hne := @Utf8.beq_eq_false_of_ge b hb
  cases hlead : Utf8.lead b mid with
  | char c length =>
    obtain ⟨more, tail, hc, hmid, -⟩ := Utf8.encodeChar_of_lead hlead
    exact absurd (by rw [hc, hmid, List.cons_append]) (h c tail)
  | broken length =>
    refine ⟨bad.getD ⟨.invalidCodePoint, some (place + 1)⟩, place + 1, ?_⟩
    have hbad : ∀ failure, bad.or (some failure) = some (bad.getD failure) := by
      cases bad <;> exact fun _ => rfl
    rw [scanText.eq_def]
    simp [hne 0x22, hne 0x5C, Utf8.not_control_of_ge hb, hlead, hbad]

/-- The characters of a text, if they are known and all before them could be kept. -/
def ofSeen (seen : List Char) (bad : Option Failure) (cs : Option (List Char)) : Option String :=
  (bad.elim cs fun _ => none).map fun cs => String.ofList (seen.reverse ++ cs)

/-- A text through its closing quote. -/
lemma scanText_of_spells {input rest : Bytes} {cs : Option (List Char)} (h : Spells input cs rest)
    (seen : List Char) (bad : Option Failure) (place : Nat) :
    ∃ value place', scanText e seen bad 0 input place = .ok ⟨value, ⟨rest, place'⟩⟩ ∧
      value.toOption = ofSeen seen bad cs := by
  induction h generalizing seen bad place with
  | close rest =>
    refine ⟨bad.elim (.ok (String.ofList seen.reverse)) .error, place + 1, ?_, ?_⟩
    · rw [scanText.eq_def]
      simp
    · cases bad <;> simp [ofSeen, Except.toOption]
  | @char input mid rest c cs hc more ih =>
    obtain ⟨place₁, h₁⟩ := scanText_char (e := e) hc seen bad place
    obtain ⟨value, place₂, h₂, hvalue⟩ := ih (c :: seen) bad place₁
    refine ⟨value, place₂, h₁.trans h₂, ?_⟩
    rw [hvalue]
    cases bad <;> cases cs <;> simp [ofSeen]
  | half h hlone more ih =>
    obtain ⟨failure, place₁, h₁⟩ := scanText_half (e := e) h hlone seen bad place
    obtain ⟨value, place₂, h₂, hvalue⟩ := ih seen (some failure) place₁
    refine ⟨value, place₂, h₁.trans h₂, ?_⟩
    rw [hvalue]
    cases bad <;> rfl
  | stray h more ih =>
    obtain ⟨failure, place₁, h₁⟩ := scanText_stray (e := e) h seen bad place
    obtain ⟨value, place₂, h₂, hvalue⟩ := ih seen (some failure) place₁
    refine ⟨value, place₂, h₁.trans h₂, ?_⟩
    rw [hvalue]
    cases bad <;> rfl

/-! ### Texts that were found -/

/-- A unit of which a character was made is that character, or the first of a pair. -/
lemma spellsChar_of_unitChar {d₁ d₂ d₃ d₄ : UInt8} {unit place more : Nat} {mid : Bytes} {c : Char}
    (hunit : hexUnit? [d₁, d₂, d₃, d₄] = some (some unit))
    (h : unitChar e unit mid place = .ok (c, more)) :
    ∃ tail, SpellsChar (0x5C :: 0x75 :: d₁ :: d₂ :: d₃ :: d₄ :: mid) c tail ∧
      ∃ passed, mid = passed ++ tail ∧ passed.length = more := by
  rw [unitChar] at h
  split_ifs at h with hlow hhigh
  · obtain ⟨second, hsecond, heq⟩ := map_eq_ok_iff.mp h
    obtain ⟨rfl, rfl⟩ := Prod.mk.inj heq
    obtain ⟨d₅, d₆, d₇, d₈, tail, rfl, hunit₂, hlow₂⟩ := secondUnit_eq_ok hsecond
    exact ⟨tail, .pair hunit hhigh hunit₂ hlow₂ tail, [0x5C, 0x75, d₅, d₆, d₇, d₈], rfl, rfl⟩
  · cases h
    exact ⟨mid, .code hunit (by simpa using hhigh) (by simpa using hlow) mid, [], rfl, rfl⟩

lemma lone_of_unitChar {unit place : Nat} {mid : Bytes} {failure : Failure}
    (h : unitChar e unit mid place = .error failure) : Lone unit mid := by
  rw [unitChar] at h
  split_ifs at h with hlow hhigh
  · exact .inl hlow
  · refine .inr ⟨hhigh, ?_⟩
    rintro d₁ d₂ d₃ d₄ second more hunit hlow₂ rfl
    simp [secondUnit, hexUnit?_append hunit, hlow₂, Except.map] at h

/-- A character that starts with none of the bytes that mean something else in a text
needs no escape. -/
lemma spellsChar_of_lead {b : UInt8} {more : Bytes} {c : Char}
    (hc : String.utf8EncodeChar c = b :: more) (hquote : b ≠ 0x22) (hslash : b ≠ 0x5C)
    (hcontrol : ¬ b < 0x20) (tail : Bytes) : SpellsChar (b :: (more ++ tail)) c tail := by
  have hascii : 0x20 ≤ c.toNat := by
    by_contra hlow
    rcases Utf8.encodeChar_cases c with ⟨-, hbytes⟩ | ⟨hhigh, -⟩
    · rw [hc, List.cons.injEq] at hbytes
      refine hcontrol ?_
      rw [hbytes.1, UInt8.lt_iff_toNat_lt, Utf8.toNat_ofNat (by omega)]
      exact Nat.lt_of_not_le hlow
    · omega
  have hplain := SpellsChar.plain hascii (c := c) ?_ ?_ tail
  · rwa [hc] at hplain
  · rintro rfl
    exact hquote (List.cons.inj hc).1.symm
  · rintro rfl
    exact hslash (List.cons.inj hc).1.symm

/-- The first step of a scan that finds a text: it comes to the closing quote, or passes over a
character, half a pair or a stray byte. -/
inductive TextStep (e : Ending) (found : Scanned) : Bytes → Prop
  | close (rest : Bytes) : TextStep e found (0x22 :: rest)
  | char {input mid : Bytes} {c : Char} {seen : List Char} {bad : Option Failure} {place : Nat}
      (h : SpellsChar input c mid)
      (hscan : scanText e seen bad 0 mid place = .ok found) : TextStep e found input
  | half {d₁ d₂ d₃ d₄ : UInt8} {unit : Nat} {mid : Bytes} {seen : List Char} {bad : Option Failure}
      {place : Nat}
      (h : hexUnit? [d₁, d₂, d₃, d₄] = some (some unit)) (hlone : Lone unit mid)
      (hscan : scanText e seen bad 0 mid place = .ok found) :
      TextStep e found (0x5C :: 0x75 :: d₁ :: d₂ :: d₃ :: d₄ :: mid)
  | stray {b : UInt8} {mid : Bytes} {seen : List Char} {bad : Option Failure} {place : Nat}
      (h : ∀ c tail, b :: mid ≠ String.utf8EncodeChar c ++ tail)
      (hscan : scanText e seen bad 0 mid place = .ok found) :
      TextStep e found (b :: mid)

lemma textStep_of_scanText {input : Bytes} {seen : List Char} {bad : Option Failure} {place : Nat}
    {found : Scanned} (h : scanText e seen bad 0 input place = .ok found) :
    TextStep e found input := by
  cases input with
  | nil => cases h
  | cons b rest =>
    rw [scanText.eq_def] at h
    simp only [beq_iff_eq] at h
    split_ifs at h with hquote hslash hcontrol
    · subst hquote
      exact .close rest
    · subst hslash
      split at h
      · cases h
      · rename_i digits
        split at h
        · cases h
        · cases h
        · rename_i unit hunit
          match digits, hunit with
          | d₁ :: d₂ :: d₃ :: d₄ :: mid, hunit =>
            rw [List.drop_succ_cons, List.drop_succ_cons, List.drop_succ_cons, List.drop_succ_cons,
              List.drop_zero] at h
            split at h
            · rename_i c more hchar
              obtain ⟨tail, hspells, passed, rfl, rfl⟩ := spellsChar_of_unitChar hunit hchar
              rw [Nat.add_comm 5] at h
              exact .char hspells
                ((scanText_skip _ _ ([0x75, d₁, d₂, d₃, d₄] ++ passed) tail _).symm.trans h)
            · rename_i failure hchar
              exact .half hunit (lone_of_unitChar hchar)
                ((scanText_skip _ _ [0x75, d₁, d₂, d₃, d₄] mid _).symm.trans h)
      · rename_i escape tail hnot
        split at h
        · rename_i c hc
          exact .char (.short hc tail) ((scanText_skip _ _ [escape] tail _).symm.trans h)
        · cases h
    · split at h
      · rename_i c length hlead
        obtain ⟨more, tail, hc, rfl, rfl⟩ := Utf8.encodeChar_of_lead hlead
        have hplain := spellsChar_of_lead hc hquote hslash hcontrol tail
        exact .char hplain ((scanText_skip _ _ more tail _).symm.trans h)
      · rename_i length hlead
        refine .stray ?_ h
        intro c tail hc
        obtain ⟨first, more, hfirst, hchar⟩ := Utf8.lead_encodeChar c tail
        rw [hfirst, List.cons_append, List.cons.injEq] at hc
        obtain ⟨rfl, rfl⟩ := hc
        rw [hchar] at hlead
        cases hlead

/-- What is scanned as a text is one of the grammar. -/
lemma spells_of_scanText {input : Bytes} {seen : List Char} {bad : Option Failure} {place : Nat}
    {found : Scanned} (h : scanText e seen bad 0 input place = .ok found) :
    ∃ cs, Spells input cs found.after.rest ∧ found.value.toOption = ofSeen seen bad cs := by
  -- It is enough to find a text of the grammar at all, since its scan is known.
  suffices hspells : ∃ cs rest, Spells input cs rest by
    obtain ⟨cs, rest, hspells⟩ := hspells
    obtain ⟨value, place', hscan, hvalue⟩ := scanText_of_spells (e := e) hspells seen bad place
    rw [hscan] at h
    cases h
    exact ⟨cs, hspells, hvalue⟩
  induction hlen : input.length using Nat.strong_induction_on generalizing input seen bad place with
  | _ n ih =>
    subst hlen
    cases textStep_of_scanText h with
    | close rest => exact ⟨some [], rest, .close rest⟩
    | char hchar hscan =>
      obtain ⟨cs, rest, hspells⟩ := ih _ hchar.length_lt hscan rfl
      exact ⟨_, rest, .char hchar hspells⟩
    | half hunit hlone hscan =>
      obtain ⟨cs, rest, hspells⟩ := ih _ (by simp; omega) hscan rfl
      exact ⟨none, rest, .half hunit hlone hspells⟩
    | stray hstray hscan =>
      obtain ⟨cs, rest, hspells⟩ := ih _ (Nat.lt_succ_self _) hscan rfl
      exact ⟨none, rest, .stray hstray hspells⟩

end Scan

end ClusterCost.Json
