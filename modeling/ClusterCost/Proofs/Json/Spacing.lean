import ClusterCost.Proofs.Json.Grammar

/-!
# Blanks between tokens

A text is a sequence of tokens, with or without blanks between them (`Tokens`). Two texts with the
same tokens say the same, if what they say is kept (`Says.of_sameTokens`).
-/

namespace ClusterCost.Json

/-! ### Tokens -/

/-- The byte opens or closes a list or an object, or stands between its members, or after a key. -/
def isMark (b : UInt8) : Bool :=
  b == 0x5B || b == 0x5D || b == 0x7B || b == 0x7D || b == 0x2C || b == 0x3A

/-- A byte such as those of numbers and of `true`, `false` and `null`. -/
def isWord (b : UInt8) : Bool := !(Scan.isBlank b || isMark b || b == 0x22)

/-- No byte of a word comes next. -/
def NoWord (rest : Bytes) : Prop := ∀ b ∈ rest.head?, isWord b = false

/-- The bytes of a text after its opening quote: those up to the first quote that is not escaped. -/
inductive Quoted : Bytes → Prop
  | close : Quoted [0x22]
  | escape (b : UInt8) {more : Bytes} (h : Quoted more) : Quoted (0x5C :: b :: more)
  | plain {b : UInt8} {more : Bytes} (hquote : b ≠ 0x22) (hslash : b ≠ 0x5C) (h : Quoted more) :
      Quoted (b :: more)

/-- A token, and what may follow it: a word ends where no byte of a word comes next. -/
inductive Token : Bytes → Bytes → Prop
  | mark {b : UInt8} (h : isMark b = true) (rest : Bytes) : Token [b] rest
  | text {bytes : Bytes} (h : Quoted bytes) (rest : Bytes) : Token (0x22 :: bytes) rest
  | word {bytes rest : Bytes} (hsome : bytes ≠ []) (h : ∀ b ∈ bytes, isWord b = true)
      (hend : NoWord rest) : Token bytes rest

/-- The tokens of a text. -/
inductive Tokens : Bytes → List Bytes → Prop
  | nil {input : Bytes} (h : Blanks input []) : Tokens input []
  | cons {input token rest : Bytes} {tokens : List Bytes} (hbefore : Blanks input (token ++ rest))
      (h : Token token rest)
      (more : Tokens rest tokens) : Tokens input (token :: tokens)

/-- Two texts differ only in the blanks between their tokens. -/
def SameTokens (text other : Bytes) : Prop := ∃ tokens, Tokens text tokens ∧ Tokens other tokens

section Tokens

variable {input other rest rest' token token' : Bytes}

lemma isWord_eq_true_iff {b : UInt8} :
    isWord b = true ↔ Scan.isBlank b = false ∧ isMark b = false ∧ b ≠ 0x22 := by
  simp [isWord, and_assoc]

lemma not_isBlank_of_isMark {b : UInt8} (h : isMark b = true) : Scan.isBlank b = false := by
  simp only [isMark, Bool.or_eq_true, beq_iff_eq] at h
  rcases h with ((((rfl | rfl) | rfl) | rfl) | rfl) | rfl <;> rfl

/-- A token starts with no blank. -/
lemma Token.first (h : Token token rest) :
    ∃ b more, token = b :: more ∧ Scan.isBlank b = false := by
  cases h with
  | mark h rest => exact ⟨_, _, rfl, not_isBlank_of_isMark h⟩
  | text h rest => exact ⟨_, _, rfl, rfl⟩
  | word hsome h hend =>
    obtain ⟨b, more, rfl⟩ := List.exists_cons_of_ne_nil hsome
    exact ⟨b, more, rfl, (isWord_eq_true_iff.mp (h b List.mem_cons_self)).1⟩

lemma Quoted.unique (h : Quoted token) (h' : Quoted token')
    (heq : token ++ rest = token' ++ rest') : token = token' ∧ rest = rest' := by
  induction h generalizing token' with
  | close =>
    cases h' with
    | close => exact ⟨rfl, (List.cons.inj heq).2⟩
    | escape b h' => cases heq
    | plain hquote hslash h' => exact absurd (List.cons.inj heq).1.symm hquote
  | escape b h ih =>
    cases h' with
    | close => cases heq
    | escape b' h' =>
      simp only [List.cons_append, List.cons.injEq, true_and] at heq
      obtain ⟨rfl, heq⟩ := heq
      obtain ⟨rfl, rfl⟩ := ih h' heq
      exact ⟨rfl, rfl⟩
    | plain hquote hslash h' => exact absurd (List.cons.inj heq).1.symm hslash
  | plain hquote hslash h ih =>
    cases h' with
    | close => exact absurd (List.cons.inj heq).1 hquote
    | escape b' h' => exact absurd (List.cons.inj heq).1 hslash
    | plain _ _ h' =>
      simp only [List.cons_append, List.cons.injEq] at heq
      obtain ⟨rfl, heq⟩ := heq
      obtain ⟨rfl, rfl⟩ := ih h' heq
      exact ⟨rfl, rfl⟩

lemma word_unique (h : ∀ b ∈ token, isWord b = true) (hend : NoWord rest)
    (h' : ∀ b ∈ token', isWord b = true) (hend' : NoWord rest')
    (heq : token ++ rest = token' ++ rest') : token = token' ∧ rest = rest' := by
  have hends : ∀ {b more}, NoWord (b :: more) → isWord b ≠ true := fun hend htrue => by
    rw [hend _ rfl] at htrue
    cases htrue
  induction token generalizing token' with
  | nil =>
    cases token' with
    | nil => exact ⟨rfl, heq⟩
    | cons b more =>
      rw [List.nil_append] at heq
      subst heq
      exact absurd (h' b List.mem_cons_self) (hends hend)
  | cons b more ih =>
    cases token' with
    | nil =>
      rw [List.nil_append] at heq
      subst heq
      exact absurd (h b List.mem_cons_self) (hends hend')
    | cons b' more' =>
      simp only [List.cons_append, List.cons.injEq] at heq
      obtain ⟨rfl, heq⟩ := heq
      obtain ⟨rfl, rfl⟩ := ih (List.forall_mem_cons.mp h).2 (List.forall_mem_cons.mp h').2 heq
      exact ⟨rfl, rfl⟩

/-- No mark and no quote starts a word. -/
lemma Token.of_isWord {b : UInt8} {more : Bytes} (h : Token (b :: more) rest)
    (hb : isWord b = true) : (∀ b' ∈ b :: more, isWord b' = true) ∧ NoWord rest := by
  obtain ⟨-, hmark, hquote⟩ := isWord_eq_true_iff.mp hb
  cases h with
  | mark h rest =>
    rw [hmark] at h
    cases h
  | text h rest => exact absurd rfl hquote
  | word hsome h hend => exact ⟨h, hend⟩

lemma Token.of_isMark {b : UInt8} {more : Bytes} (h : Token (b :: more) rest)
    (hb : isMark b = true) : more = [] := by
  cases h with
  | mark h rest => rfl
  | text h rest => cases hb
  | word hsome h hend =>
    have hnot := (isWord_eq_true_iff.mp (h b List.mem_cons_self)).2.1
    rw [hb] at hnot
    cases hnot

lemma Token.of_quote {more : Bytes} (h : Token (0x22 :: more) rest) : Quoted more := by
  cases h with
  | mark h rest => cases h
  | text h rest => exact h
  | word hsome h hend => exact absurd rfl (isWord_eq_true_iff.mp (h 0x22 List.mem_cons_self)).2.2

/-- What comes first settles where a token ends. -/
lemma Token.unique (h : Token token rest) (h' : Token token' rest')
    (heq : token ++ rest = token' ++ rest') : token = token' ∧ rest = rest' := by
  obtain ⟨b, more, rfl, -⟩ := h'.first
  cases h with
  | mark h rest =>
    simp only [List.cons_append, List.cons.injEq] at heq
    obtain ⟨rfl, heq⟩ := heq
    obtain rfl := h'.of_isMark h
    exact ⟨rfl, heq⟩
  | text h rest =>
    simp only [List.cons_append, List.cons.injEq] at heq
    obtain ⟨rfl, heq⟩ := heq
    obtain ⟨rfl, rfl⟩ := h.unique h'.of_quote heq
    exact ⟨rfl, rfl⟩
  | word hsome h hend =>
    obtain ⟨first, word, rfl⟩ := List.exists_cons_of_ne_nil hsome
    have hfirst : first = b := (List.cons.inj heq).1
    subst hfirst
    obtain ⟨h', hend'⟩ := h'.of_isWord (h first List.mem_cons_self)
    exact word_unique h hend h' hend' heq

/-! ### Texts with the same tokens -/

/-- Blanks do not go beyond a byte that is none. -/
lemma Blanks.of_blanks {a b c : Bytes} (h : Blanks a b) (h' : Blanks a c)
    (hc : ∀ x ∈ c.head?, Scan.isBlank x = false) : Blanks b c := by
  induction h with
  | none rest => exact h'
  | @some x input rest hx more ih =>
    cases h' with
    | none _ =>
      rw [hc x rfl] at hx
      cases hx
    | some _ more' => exact ih more'

lemma Tokens.blanks {tokens : List Bytes} (h : Tokens input tokens) (hblanks : Blanks input rest) :
    Tokens rest tokens := by
  cases h with
  | nil h => exact .nil (hblanks.of_blanks h (by simp))
  | cons hbefore h more =>
    obtain ⟨b, bytes, rfl, hb⟩ := h.first
    refine .cons (hblanks.of_blanks hbefore fun x hx => ?_) h more
    cases hx
    exact hb

lemma SameTokens.blanks (h : SameTokens input other) (hblanks : Blanks input rest) :
    SameTokens rest other := by
  obtain ⟨tokens, htokens, hother⟩ := h
  exact ⟨tokens, htokens.blanks hblanks, hother⟩

lemma SameTokens.nil (h : SameTokens [] other) : Blanks other [] := by
  obtain ⟨tokens, htokens, hother⟩ := h
  cases htokens with
  | nil _ =>
    cases hother with
    | nil h => exact h
  | cons hbefore h more =>
    obtain ⟨b, bytes, rfl, -⟩ := h.first
    cases hbefore

/-- Where the one text has a token, so has the other, after some blanks. -/
lemma SameTokens.next (token : Bytes) (h : SameTokens (token ++ rest) other)
    (htoken : Token token rest) :
    ∃ rest', Blanks other (token ++ rest') ∧ Token token rest' ∧ SameTokens rest rest' := by
  obtain ⟨b, bytes, rfl, hb⟩ := htoken.first
  have hstart : ∀ {start}, Blanks (b :: bytes ++ rest) start → start = b :: bytes ++ rest := by
    rintro start (_ | ⟨hblank, -⟩)
    · rfl
    · rw [hb] at hblank
      cases hblank
  obtain ⟨tokens, htokens, hother⟩ := h
  cases htokens with
  | nil h => cases hstart h
  | @cons _ token' rest' tokens hbefore htoken' more =>
    obtain ⟨rfl, rfl⟩ := htoken'.unique htoken (hstart hbefore)
    cases hother with
    | cons hbefore' htoken'' more' => exact ⟨_, hbefore', htoken'', tokens, more, more'⟩

lemma SameTokens.mark {b : UInt8} (h : SameTokens (b :: rest) other)
    (hb : isMark b = true := by decide) :
    ∃ rest', Blanks other (b :: rest') ∧ SameTokens rest rest' := by
  obtain ⟨rest', hblanks, -, hsame⟩ := SameTokens.next [b] h (.mark hb rest)
  exact ⟨rest', hblanks, hsame⟩

lemma SameTokens.word {b : UInt8} (token : Bytes) (h : SameTokens (b :: (token ++ rest)) other)
    (htoken : ∀ x ∈ b :: token, isWord x = true) (hend : NoWord rest) :
    ∃ rest', Blanks other (b :: (token ++ rest')) ∧ NoWord rest' ∧ SameTokens rest rest' := by
  obtain ⟨rest', hblanks, htoken', hsame⟩ :=
    SameTokens.next (b :: token) h (.word (List.cons_ne_nil b token) htoken hend)
  exact ⟨rest', hblanks, (htoken'.of_isWord (htoken b List.mem_cons_self)).2, hsame⟩

end Tokens

/-! ### Texts and numbers are tokens -/

section Spelling

variable {input rest other : Bytes}

lemma quoted_char {c : Char} (hquote : c ≠ '"') (hslash : c ≠ '\\') {bytes : Bytes}
    (h : Quoted bytes) : Quoted (String.utf8EncodeChar c ++ bytes) := by
  rcases Utf8.encodeChar_cases c with ⟨hascii, hc⟩ | ⟨_, hbytes⟩
  · rw [hc]
    refine .plain ?_ ?_ h
    · rw [ne_eq, ← UInt8.toNat_inj, Utf8.toNat_ofNat (by omega)]
      exact fun hn => hquote (Char.toNat_inj.mp hn)
    · rw [ne_eq, ← UInt8.toNat_inj, Utf8.toNat_ofNat (by omega)]
      exact fun hn => hslash (Char.toNat_inj.mp hn)
  · generalize String.utf8EncodeChar c = char at hbytes
    induction char with
    | nil => exact h
    | cons b more ih =>
      obtain ⟨hb, hmore⟩ := List.forall_mem_cons.mp hbytes
      refine .plain ?_ ?_ (ih hmore)
      · exact beq_eq_false_iff_ne.mp (Utf8.beq_eq_false_of_ge hb 0x22)
      · exact beq_eq_false_iff_ne.mp (Utf8.beq_eq_false_of_ge hb 0x5C)

/-- A character of a text is some of its bytes, whatever follows, and a quote among
them is escaped. -/
lemma SpellsChar.split {c : Char} (h : SpellsChar input c rest) :
    ∃ bytes, input = bytes ++ rest ∧ (∀ more, Quoted more → Quoted (bytes ++ more)) ∧
      ∀ rest', SpellsChar (bytes ++ rest') c rest' := by
  have hdigit : ∀ {d₁ d₂ d₃ d₄ : UInt8} {unit : Nat} {more : Bytes},
      Scan.hexUnit? [d₁, d₂, d₃, d₄] = some (some unit) → Quoted more →
      Quoted (0x5C :: 0x75 :: d₁ :: d₂ :: d₃ :: d₄ :: more) := by
    intro d₁ d₂ d₃ d₄ unit more h hmore
    have hne : ∀ {b n}, Scan.hexValue? b = some n → b ≠ 0x22 ∧ b ≠ 0x5C := by
      intro b n hb
      constructor
      · rintro rfl
        cases hb
      · rintro rfl
        cases hb
    simp only [Scan.hexUnit?, Option.some.injEq, Option.bind_eq_bind, Option.bind_eq_some_iff] at h
    obtain ⟨n₁, h₁, n₂, h₂, n₃, h₃, n₄, h₄, -⟩ := h
    have hlast := Quoted.plain (hne h₃).1 (hne h₃).2 (.plain (hne h₄).1 (hne h₄).2 hmore)
    exact .escape _ (.plain (hne h₁).1 (hne h₁).2 (.plain (hne h₂).1 (hne h₂).2 hlast))
  cases h with
  | plain hcontrol hquote hslash rest =>
    exact ⟨_, rfl, fun more hmore => quoted_char hquote hslash hmore,
      fun rest' => .plain hcontrol hquote hslash rest'⟩
  | @short b c h rest =>
    exact ⟨[0x5C, b], rfl, fun more hmore => .escape b hmore, fun rest' => .short h rest'⟩
  | @code d₁ d₂ d₃ d₄ unit h hhigh hlow rest =>
    exact ⟨[0x5C, 0x75, d₁, d₂, d₃, d₄], rfl, fun more hmore => hdigit h hmore,
      fun rest' => .code h hhigh hlow rest'⟩
  | @pair d₁ d₂ d₃ d₄ d₅ d₆ d₇ d₈ first second h hhigh h' hlow rest =>
    refine ⟨[0x5C, 0x75, d₁, d₂, d₃, d₄, 0x5C, 0x75, d₅, d₆, d₇, d₈], rfl, fun more hmore => ?_,
      fun rest' => .pair h hhigh h' hlow rest'⟩
    exact hdigit h (hdigit h' hmore)

lemma Spells.split {cs : Option (List Char)} (h : Spells input cs rest) (hkept : cs ≠ none) :
    ∃ bytes, input = bytes ++ rest ∧ Quoted bytes ∧ ∀ rest', Spells (bytes ++ rest') cs rest' := by
  induction h with
  | close rest => exact ⟨[0x22], rfl, .close, fun rest' => .close rest'⟩
  | @char input mid rest c cs h more ih =>
    obtain ⟨first, rfl, hfirst, hchar⟩ := h.split
    obtain ⟨bytes, rfl, hquoted, hmore⟩ := ih fun hnone => hkept (by rw [hnone, Option.map_none])
    refine ⟨first ++ bytes, (List.append_assoc _ _ _).symm, hfirst bytes hquoted, fun rest' => ?_⟩
    rw [List.append_assoc]
    exact .char (hchar _) (hmore rest')
  | half h hlone more ih => exact absurd rfl hkept
  | stray h more ih => exact absurd rfl hkept

/-! ### Numbers -/

/-- Where one input starts with a byte of a word, the other starts with that byte, too. -/
def StartsLike (other input : Bytes) : Prop := ∀ b ∈ other.head?, isWord b = true → b ∈ input.head?

lemma isWord_of_isDigit {b : UInt8} (h : Literal.isDigit b = true) : isWord b = true := by
  have hne := @beq_eq_false_of_number b (.inr h)
  rw [isWord_eq_true_iff, Scan.isBlank, isMark, hne 0x20, hne 0x0A, hne 0x09, hne 0x0D, hne 0x5B,
    hne 0x5D, hne 0x7B, hne 0x7D, hne 0x2C, hne 0x3A]
  exact ⟨rfl, rfl, beq_eq_false_iff_ne.mp (hne 0x22)⟩

lemma AllDigits.isWord {digits : Bytes} (h : AllDigits digits) : ∀ b ∈ digits, isWord b = true :=
  fun b hb => isWord_of_isDigit (h b hb)

/-- Whatever comes first in an input comes first also where only what follows was replaced, and no
byte of a word was put there. -/
lemma startsLike_append (bytes : Bytes) (h : NoWord other) :
    StartsLike (bytes ++ other) (bytes ++ rest) := by
  cases bytes with
  | nil =>
    intro b hb hword
    rw [h b hb] at hword
    cases hword
  | cons first bytes => exact fun b hb _ => hb

lemma NoDigit.of_startsLike (h : NoDigit input) (hlike : StartsLike other input) :
    NoDigit other := by
  intro b hb
  by_contra hdigit
  have hdigit := eq_true_of_ne_false hdigit
  rw [h b (hlike b hb (isWord_of_isDigit hdigit))] at hdigit
  cases hdigit

lemma Whole.split {whole : Bytes} (h : Whole input whole rest) :
    input = whole ++ rest ∧ (∀ b ∈ whole, isWord b = true) ∧
    ∀ {rest'}, StartsLike rest' rest → Whole (whole ++ rest') whole rest' := by
  cases h with
  | zero h => exact ⟨rfl, by simp; decide, fun hlike => .zero (h.of_startsLike hlike)⟩
  | other hd hzero hdigits h =>
    have hall := AllDigits.isWord (List.forall_mem_cons.mpr ⟨hd, hdigits⟩)
    exact ⟨rfl, hall, fun hlike => .other hd hzero hdigits (h.of_startsLike hlike)⟩

lemma Fraction.split {fraction : Option Bytes} (h : Fraction input fraction rest) :
    ∃ bytes, input = bytes ++ rest ∧ (∀ b ∈ bytes, isWord b = true) ∧
      ∀ {rest'}, StartsLike rest' rest → Fraction (bytes ++ rest') fraction rest' := by
  cases h with
  | none h =>
    refine ⟨[], rfl, by simp, fun hlike => .none ?_⟩
    rintro b hb rfl
    exact h 0x2E (hlike 0x2E hb (by decide)) rfl
  | @some digits rest hsome hdigits h =>
    have hall : ∀ b ∈ (0x2E :: digits : Bytes), isWord b = true :=
      List.forall_mem_cons.mpr ⟨by decide, hdigits.isWord⟩
    exact ⟨_, rfl, hall, fun hlike => .some hsome hdigits (h.of_startsLike hlike)⟩

lemma Exponent.split {exponent : Option (Bool × Bytes)} (h : Exponent input exponent rest) :
    ∃ bytes, input = bytes ++ rest ∧ (∀ b ∈ bytes, isWord b = true) ∧
      ∀ {rest'}, StartsLike rest' rest → Exponent (bytes ++ rest') exponent rest' := by
  cases h with
  | none h =>
    refine ⟨[], rfl, by simp, fun hlike => .none fun b hb => ?_⟩
    constructor
    · rintro rfl
      exact (h 0x65 (hlike 0x65 hb (by decide))).1 rfl
    · rintro rfl
      exact (h 0x45 (hlike 0x45 hb (by decide))).2 rfl
  | @some mark sign digits rest negative hmark hsign hsome hdigits h =>
    refine ⟨mark :: (sign ++ digits), by simp, ?_, fun {rest'} hlike => ?_⟩
    · refine List.forall_mem_cons.mpr ⟨by rcases hmark with rfl | rfl <;> decide,
        List.forall_mem_append.mpr ⟨?_, hdigits.isWord⟩⟩
      cases hsign with
      | none => simp
      | plus => simp; decide
      | minus => simp; decide
    · rw [List.cons_append, List.append_assoc]
      exact .some hmark hsign hsome hdigits (h.of_startsLike hlike)

/-- A number is one word. -/
lemma SpellsNumber.split {l : Literal} (h : SpellsNumber input l rest) :
    ∃ b bytes, input = b :: (bytes ++ rest) ∧ (∀ x ∈ b :: bytes, isWord x = true) ∧
      ∀ {rest'}, NoWord rest' → SpellsNumber (b :: (bytes ++ rest')) l rest' := by
  obtain ⟨b, more, hinput, hb, -⟩ := h.first
  have hsplit : ∃ bytes, input = bytes ++ rest ∧ (∀ x ∈ bytes, isWord x = true) ∧
      ∀ {rest'}, NoWord rest' → SpellsNumber (bytes ++ rest') l rest' := by
    have hparts :
        ∀ {input mid next whole : Bytes} {fraction : Option Bytes}
          {exponent : Option (Bool × Bytes)},
        Whole input whole mid → Fraction mid fraction next → Exponent next exponent rest →
        ∃ bytes, input = bytes ++ rest ∧ (∀ x ∈ bytes, isWord x = true) ∧ ∀ {rest'}, NoWord rest' →
          ∃ mid' next', Whole (bytes ++ rest') whole mid' ∧ Fraction mid' fraction next' ∧
            Exponent next' exponent rest' := by
      intro input mid next whole fraction exponent hwhole hfraction hexponent
      obtain ⟨rfl, hwholeWord, hwhole⟩ := hwhole.split
      obtain ⟨points, rfl, hpointsWord, hfraction⟩ := hfraction.split
      obtain ⟨power, rfl, hpowerWord, hexponent⟩ := hexponent.split
      refine ⟨whole ++ (points ++ power), by simp, ?_,
        fun {rest'} hend => ⟨points ++ power ++ rest', power ++ rest', ?_, ?_, ?_⟩⟩
      · exact List.forall_mem_append.mpr
          ⟨hwholeWord, List.forall_mem_append.mpr ⟨hpointsWord, hpowerWord⟩⟩
      · rw [List.append_assoc]
        refine hwhole ?_
        rw [← List.append_assoc points power rest]
        exact startsLike_append (points ++ power) hend
      · rw [List.append_assoc]
        exact hfraction (startsLike_append power hend)
      · exact hexponent (startsLike_append [] hend)
    cases h with
    | positive hwhole hfraction hexponent =>
      obtain ⟨bytes, rfl, hword, hmore⟩ := hparts hwhole hfraction hexponent
      refine ⟨bytes, rfl, hword, fun hend => ?_⟩
      obtain ⟨mid', next', hwhole, hfraction, hexponent⟩ := hmore hend
      exact .positive hwhole hfraction hexponent
    | negative hwhole hfraction hexponent =>
      obtain ⟨bytes, rfl, hword, hmore⟩ := hparts hwhole hfraction hexponent
      refine ⟨0x2D :: bytes, rfl, List.forall_mem_cons.mpr ⟨by decide, hword⟩, fun hend => ?_⟩
      obtain ⟨mid', next', hwhole, hfraction, hexponent⟩ := hmore hend
      exact .negative hwhole hfraction hexponent
  obtain ⟨bytes, heq, hword, hmore⟩ := hsplit
  cases bytes with
  | nil =>
    -- The input would be all of the rest, but a number is shorter.
    obtain ⟨-, -, -, -, hlen⟩ := h.first
    rw [heq] at hlen
    exact absurd hlen (lt_irrefl _)
  | cons first bytes => exact ⟨first, bytes, heq, hword, hmore⟩

end Spelling

/-! ### What texts with the same tokens say -/

lemma NoWord.of_blanks {input rest : Bytes} (h : Blanks input rest) (hend : NoWord rest) :
    NoWord input := by
  cases h with
  | none rest => exact hend
  | some hb more =>
    rintro b ⟨⟩
    rw [isWord, hb]
    rfl

lemma DenotesMoreItems.noWord {input rest : Bytes} {ts : List Tree}
    (h : DenotesMoreItems input ts rest) : NoWord input := by
  cases h with
  | none rest =>
    rintro b ⟨⟩
    rfl
  | some _ _ _ _ =>
    rintro b ⟨⟩
    rfl

lemma DenotesMoreMembers.noWord {input rest : Bytes} {ms : List (Option String × Tree)}
    (h : DenotesMoreMembers input ms rest) : NoWord input := by
  cases h with
  | none rest =>
    rintro b ⟨⟩
    rfl
  | some _ _ _ _ =>
    rintro b ⟨⟩
    rfl

mutual

/-- Where an input says a tree that is kept, an input with the same tokens says it, too. -/
lemma Denotes.of_sameTokens {input rest other : Bytes} {t : Tree} (h : Denotes input t rest)
    {room : Nat} (hkept : t.Kept room) (hend : NoWord rest) (hsame : SameTokens input other) :
    ∃ start rest', Blanks other start ∧ Denotes start t rest' ∧ SameTokens rest rest' := by
  cases h with
  | null rest =>
    obtain ⟨rest', hblanks, -, hsame⟩ :=
      hsame.word [0x75, 0x6C, 0x6C] (List.all_eq_true.mp rfl) hend
    exact ⟨_, rest', hblanks, .null rest', hsame⟩
  | yes rest =>
    obtain ⟨rest', hblanks, -, hsame⟩ :=
      hsame.word [0x72, 0x75, 0x65] (List.all_eq_true.mp rfl) hend
    exact ⟨_, rest', hblanks, .yes rest', hsame⟩
  | no rest =>
    obtain ⟨rest', hblanks, -, hsame⟩ :=
      hsame.word [0x61, 0x6C, 0x73, 0x65] (List.all_eq_true.mp rfl) hend
    exact ⟨_, rest', hblanks, .no rest', hsame⟩
  | number h =>
    obtain ⟨b, bytes, rfl, hword, hnumber⟩ := h.split
    obtain ⟨rest', hblanks, hend', hsame⟩ := hsame.word bytes hword hend
    exact ⟨_, rest', hblanks, .number (hnumber hend'), hsame⟩
  | @text input rest cs h =>
    have hcs : cs ≠ none := by
      rintro rfl
      cases hkept
    obtain ⟨bytes, rfl, hquoted, htext⟩ := h.split hcs
    obtain ⟨rest', hblanks, -, hsame⟩ := SameTokens.next (0x22 :: bytes) hsame (.text hquoted rest)
    exact ⟨_, rest', hblanks, .text (htext rest'), hsame⟩
  | list h =>
    obtain ⟨other', hblanks, hsame⟩ := hsame.mark
    cases hkept with
    | list hkept =>
      obtain ⟨rest', hitems, hsame⟩ := h.of_sameTokens hkept hsame
      exact ⟨_, rest', hblanks, .list hitems, hsame⟩
  | object h =>
    obtain ⟨other', hblanks, hsame⟩ := hsame.mark
    cases hkept with
    | object hkeys hkept =>
      obtain ⟨rest', hmembers, hsame⟩ := h.of_sameTokens hkeys hkept hsame
      exact ⟨_, rest', hblanks, .object hmembers, hsame⟩

lemma DenotesItems.of_sameTokens {input rest other : Bytes} {ts : List Tree}
    (h : DenotesItems input ts rest) {room : Nat} (hkept : ∀ t ∈ ts, t.Kept room)
    (hsame : SameTokens input other) :
    ∃ rest', DenotesItems other ts rest' ∧ SameTokens rest rest' := by
  cases h with
  | none h =>
    obtain ⟨rest', hblanks, hsame⟩ := (hsame.blanks h).mark
    exact ⟨rest', .none hblanks, hsame⟩
  | some hbefore ht hafter hmore =>
    obtain ⟨hitem, hrest⟩ := List.forall_mem_cons.mp hkept
    obtain ⟨start', mid', hbefore', ht', hsame⟩ :=
      ht.of_sameTokens hitem (hmore.noWord.of_blanks hafter) (hsame.blanks hbefore)
    obtain ⟨next', rest', hafter', hmore', hsame⟩ := hmore.of_sameTokens hrest (hsame.blanks hafter)
    exact ⟨rest', .some hbefore' ht' hafter' hmore', hsame⟩

lemma DenotesMoreItems.of_sameTokens {input rest other : Bytes} {ts : List Tree}
    (h : DenotesMoreItems input ts rest) {room : Nat} (hkept : ∀ t ∈ ts, t.Kept room)
    (hsame : SameTokens input other) :
    ∃ start rest', Blanks other start ∧ DenotesMoreItems start ts rest' ∧
      SameTokens rest rest' := by
  cases h with
  | none rest =>
    obtain ⟨rest', hblanks, hsame⟩ := hsame.mark
    exact ⟨_, rest', hblanks, .none rest', hsame⟩
  | some hbefore ht hafter hmore =>
    obtain ⟨hitem, hrest⟩ := List.forall_mem_cons.mp hkept
    obtain ⟨other', hblanks, hsame⟩ := hsame.mark
    obtain ⟨start', mid', hbefore', ht', hsame⟩ :=
      ht.of_sameTokens hitem (hmore.noWord.of_blanks hafter) (hsame.blanks hbefore)
    obtain ⟨next', rest', hafter', hmore', hsame⟩ := hmore.of_sameTokens hrest (hsame.blanks hafter)
    exact ⟨_, rest', hblanks, .some hbefore' ht' hafter' hmore', hsame⟩

lemma DenotesMember.of_sameTokens {input rest other : Bytes} {m : Option String × Tree}
    (h : DenotesMember input m rest) {room : Nat} (hkey : m.1 ≠ none) (hkept : m.2.Kept room)
    (hend : NoWord rest) (hsame : SameTokens input other) :
    ∃ start rest', Blanks other start ∧ DenotesMember start m rest' ∧ SameTokens rest rest' := by
  cases h with
  | @intro input mid next start rest key t htext hcolon hbefore ht =>
    have hcs : key ≠ none := by
      rintro rfl
      exact hkey rfl
    obtain ⟨bytes, rfl, hquoted, htext⟩ := htext.split hcs
    obtain ⟨mid', hblanks, -, hsame⟩ := SameTokens.next (0x22 :: bytes) hsame (.text hquoted mid)
    obtain ⟨next', hcolon', hsame⟩ := (hsame.blanks hcolon).mark
    obtain ⟨start', rest', hbefore', ht', hsame⟩ :=
      ht.of_sameTokens hkept hend (hsame.blanks hbefore)
    exact ⟨_, rest', hblanks, .intro (htext mid') hcolon' hbefore' ht', hsame⟩

lemma DenotesMembers.of_sameTokens {input rest other : Bytes} {ms : List (Option String × Tree)}
    (h : DenotesMembers input ms rest) {room : Nat} (hkeys : ∀ m ∈ ms, m.1 ≠ none)
    (hkept : ∀ m ∈ ms, m.2.Kept room) (hsame : SameTokens input other) :
    ∃ rest', DenotesMembers other ms rest' ∧ SameTokens rest rest' := by
  cases h with
  | none h =>
    obtain ⟨rest', hblanks, hsame⟩ := (hsame.blanks h).mark
    exact ⟨rest', .none hblanks, hsame⟩
  | some hbefore hm hafter hmore =>
    obtain ⟨hkey, hkeys⟩ := List.forall_mem_cons.mp hkeys
    obtain ⟨hmember, hkept⟩ := List.forall_mem_cons.mp hkept
    obtain ⟨start', mid', hbefore', hm', hsame⟩ :=
      hm.of_sameTokens hkey hmember (hmore.noWord.of_blanks hafter) (hsame.blanks hbefore)
    obtain ⟨next', rest', hafter', hmore', hsame⟩ :=
      hmore.of_sameTokens hkeys hkept (hsame.blanks hafter)
    exact ⟨rest', .some hbefore' hm' hafter' hmore', hsame⟩

lemma DenotesMoreMembers.of_sameTokens {input rest other : Bytes} {ms : List (Option String × Tree)}
    (h : DenotesMoreMembers input ms rest) {room : Nat} (hkeys : ∀ m ∈ ms, m.1 ≠ none)
    (hkept : ∀ m ∈ ms, m.2.Kept room)
    (hsame : SameTokens input other) :
    ∃ start rest', Blanks other start ∧ DenotesMoreMembers start ms rest' ∧
      SameTokens rest rest' := by
  cases h with
  | none rest =>
    obtain ⟨rest', hblanks, hsame⟩ := hsame.mark
    exact ⟨_, rest', hblanks, .none rest', hsame⟩
  | some hbefore hm hafter hmore =>
    obtain ⟨hkey, hkeys⟩ := List.forall_mem_cons.mp hkeys
    obtain ⟨hmember, hkept⟩ := List.forall_mem_cons.mp hkept
    obtain ⟨other', hblanks, hsame⟩ := hsame.mark
    obtain ⟨start', mid', hbefore', hm', hsame⟩ :=
      hm.of_sameTokens hkey hmember (hmore.noWord.of_blanks hafter) (hsame.blanks hbefore)
    obtain ⟨next', rest', hafter', hmore', hsame⟩ :=
      hmore.of_sameTokens hkeys hkept (hsame.blanks hafter)
    exact ⟨_, rest', hblanks, .some hbefore' hm' hafter' hmore', hsame⟩

end

/-- Blanks between the tokens do not change what a text says. -/
theorem Says.of_sameTokens {text other : Bytes} {t : Tree} (h : Says text t) {room : Nat}
    (hkept : t.Kept room) (hsame : SameTokens text other) : Says other t := by
  obtain ⟨start, rest, hbefore, ht, hafter⟩ := h
  have hend : NoWord rest := NoWord.of_blanks hafter (by simp [NoWord])
  obtain ⟨start', rest', hbefore', ht', hsame⟩ := ht.of_sameTokens hkept hend (hsame.blanks hbefore)
  exact ⟨start', rest', hbefore', ht', (hsame.blanks hafter).nil⟩

end ClusterCost.Json
