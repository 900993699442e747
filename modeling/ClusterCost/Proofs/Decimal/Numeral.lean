import ClusterCost.Decimal.Numeral
import Mathlib.Data.List.TakeWhile
import Mathlib.Tactic.Common

/-!
# The grammar of numerals

`Spells cs n` says that the characters are an optional sign followed by a word for infinity or for
what is no number, or by digits with an optional point and an optional exponent, and what numeral
that is. `Numeral.read` reads exactly the texts of this grammar (`read_eq_ok_iff`).
-/

namespace ClusterCost.Numeral

/-! ### The grammar -/

/-- All characters are digits. -/
def AllDigits (cs : List Char) : Prop := ∀ c ∈ cs, isDigit c = true

/-- An optional sign, and whether it is negative. -/
inductive Sign : List Char → Bool → Prop
  | none : Sign [] false
  | plus : Sign ['+'] false
  | minus : Sign ['-'] true

/-- An optional sign and at least one digit. -/
inductive Integer : List Char → Int → Prop
  | intro {sign digits : List Char} {negative : Bool} (hsign : Sign sign negative)
      (hsome : digits ≠ []) (hdigits : AllDigits digits) :
      Integer (sign ++ digits)
        (if negative then -(digitsValue 0 digits : Int) else digitsValue 0 digits)

/-- An optional exponent after its mark. -/
inductive Exponent : List Char → Int → Prop
  | none : Exponent [] 0
  | some {mark : Char} {rest : List Char} {n : Int} (hmark : mark = 'e' ∨ mark = 'E')
      (hrest : Integer rest n) :
      Exponent (mark :: rest) n

/-- An optional point with the digits after it. -/
inductive Fraction : List Char → List Char → Prop
  | none : Fraction [] []
  | point {digits : List Char} (hdigits : AllDigits digits) : Fraction ('.' :: digits) digits

/-- Digits with an optional point and an optional exponent. There is a digit before the point or
after it, and the digits after the point lower the exponent. -/
inductive Number (negative : Bool) : List Char → Numeral → Prop
  | intro {whole point fraction rest : List Char} {exponent : Int} (hwhole : AllDigits whole)
      (hpoint : Fraction point fraction)
      (hsome : whole ≠ [] ∨ fraction ≠ []) (hrest : Exponent rest exponent) :
      Number negative (whole ++ (point ++ rest))
        (.finite negative (digitsValue 0 (whole ++ fraction)) (exponent - fraction.length))

/-- What may follow a sign: a word in any case, or a number. -/
inductive Unsigned (negative : Bool) : List Char → Numeral → Prop
  | infinite {cs : List Char}
      (h : cs.map Char.toLower = "inf".toList ∨ cs.map Char.toLower = "infinity".toList) :
      Unsigned negative cs (.infinite negative)
  | notANumber {cs : List Char} (h : cs.map Char.toLower = "nan".toList) :
      Unsigned negative cs .notANumber
  | number {cs : List Char} {n : Numeral} (h : Number negative cs n) : Unsigned negative cs n

/-- The characters spell a numeral. -/
inductive Spells : List Char → Numeral → Prop
  | intro {sign rest : List Char} {negative : Bool} {n : Numeral} (hsign : Sign sign negative)
      (hrest : Unsigned negative rest n) :
      Spells (sign ++ rest) n

/-! ### Digits and words -/

section Digits

variable {cs digits rest : List Char} {c : Char}

lemma allDigits_takeWhile (cs : List Char) : AllDigits (cs.takeWhile isDigit) :=
  fun _ hc => List.mem_takeWhile_imp hc

/-- The digits at the front end where a character is no digit. -/
lemma span_digits (hdigits : AllDigits digits) (hrest : ∀ c ∈ rest.head?, isDigit c = false) :
    (digits ++ rest).takeWhile isDigit = digits ∧ (digits ++ rest).dropWhile isDigit = rest := by
  rw [List.takeWhile_append_of_pos hdigits, List.dropWhile_append_of_pos hdigits]
  cases rest with
  | nil => exact ⟨List.append_nil digits, rfl⟩
  | cons c rest =>
    have hc : isDigit c = false := hrest c rfl
    simp [hc]

lemma digitsValue_append (whole fraction : List Char) :
    digitsValue (digitsValue 0 whole) fraction = digitsValue 0 (whole ++ fraction) := by
  rw [digitsValue, digitsValue, digitsValue, List.foldl_append]

lemma ofList_beq (cs : List Char) (word : String) :
    (String.ofList cs == word) = true ↔ cs = word.toList := by
  rw [beq_iff_eq]
  constructor
  · rintro rfl
    exact (String.toList_ofList).symm
  · rintro rfl
    exact String.ofList_toList

/-- A digit or a point is no letter. -/
lemma toLower_eq_self (h : isDigit c = true ∨ c = '.') : c.toLower = c := by
  refine dif_neg ?_
  rintro ⟨hlow, -⟩
  rcases h with h | rfl
  · rw [isDigit, Bool.and_eq_true, decide_eq_true_iff, decide_eq_true_iff] at h
    exact absurd (UInt32.le_trans hlow h.2) (by decide)
  · exact absurd hlow (by decide)

/-- No word starts as a number does. -/
lemma map_toLower_ne (h : isDigit c = true ∨ c = '.') (word : List Char)
    (hword : word.head? = some 'i' ∨ word.head? = some 'n') :
    (c :: rest).map Char.toLower ≠ word := by
  rintro rfl
  rw [List.map_cons, List.head?_cons, toLower_eq_self h, Option.some.injEq,
    Option.some.injEq] at hword
  rcases h with h | rfl
  · rcases hword with rfl | rfl <;> exact absurd h (by decide)
  · exact absurd hword (by decide)

end Digits

/-! ### Signs -/

section Signs

variable {cs sign digits rest : List Char} {negative : Bool}

/-- The characters do not start with a sign. -/
def Signless (cs : List Char) : Prop := ∀ c ∈ cs.head?, c ≠ '-' ∧ c ≠ '+'

lemma signless_cons {c : Char} : Signless (c :: rest) ↔ c ≠ '-' ∧ c ≠ '+' := by
  simp [Signless]

lemma exists_sign (cs : List Char) :
    ∃ sign rest negative, Sign sign negative ∧ (sign = [] → Signless rest) ∧ cs = sign ++ rest := by
  cases cs with
  | nil => exact ⟨[], [], false, .none, fun _ => by simp [Signless], rfl⟩
  | cons c rest =>
    by_cases hminus : c = '-'
    · exact ⟨['-'], rest, true, .minus, fun h => absurd h (by simp), by rw [hminus]; rfl⟩
    · by_cases hplus : c = '+'
      · exact ⟨['+'], rest, false, .plus, fun h => absurd h (by simp), by rw [hplus]; rfl⟩
      · exact ⟨[], c :: rest, false, .none, fun _ => signless_cons.mpr ⟨hminus, hplus⟩, rfl⟩

lemma signless_of_digits (hdigits : AllDigits digits) : Signless digits := by
  intro c hc
  have hdigit := hdigits c (List.mem_of_mem_head? hc)
  constructor <;> rintro rfl <;> exact absurd hdigit (by decide)

lemma readInteger_append (hsign : Sign sign negative) (h : sign = [] → Signless digits) :
    readInteger (sign ++ digits) =
      if digits.isEmpty || !digits.all isDigit then none
      else some (if negative then -(digitsValue 0 digits : Int) else digitsValue 0 digits) := by
  cases hsign with
  | none =>
    cases digits with
    | nil => rfl
    | cons c rest =>
      obtain ⟨hminus, hplus⟩ := signless_cons.mp (h rfl)
      simp [readInteger, hminus, hplus]
  | plus => rfl
  | minus => rfl

end Signs

/-! ### Reading -/

section Reading

variable {cs digits rest : List Char} {c : Char}

lemma readInteger_eq_some_iff {n : Int} : readInteger cs = some n ↔ Integer cs n := by
  constructor
  · intro h
    obtain ⟨sign, digits, negative, hsign, hsignless, rfl⟩ := exists_sign cs
    rw [readInteger_append hsign hsignless, Option.ite_none_left_eq_some] at h
    obtain ⟨hdigits, hn⟩ := h
    obtain ⟨hsome, hall⟩ : digits ≠ [] ∧ AllDigits digits := by simpa [AllDigits] using hdigits
    cases hn
    exact .intro hsign hsome hall
  · rintro ⟨hsign, hsome, hdigits⟩
    rw [readInteger_append hsign fun _ => signless_of_digits hdigits, if_neg]
    simpa [hsome] using fun c hc => hdigits c hc

lemma readExponent_eq_some_iff {exponent : Int} :
    readExponent cs = some exponent ↔ Exponent cs exponent := by
  constructor
  · intro h
    cases cs with
    | nil =>
      cases h
      exact .none
    | cons mark rest =>
      rw [readExponent] at h
      split_ifs at h with hmark
      exact .some (by simpa using hmark) (readInteger_eq_some_iff.mp h)
  · intro h
    cases h with
    | none => rfl
    | some hmark hrest =>
      rw [readExponent, if_pos (by simpa using hmark)]
      exact readInteger_eq_some_iff.mpr hrest

/-- No exponent starts with a digit or a point. -/
lemma Exponent.head {exponent : Int} (h : Exponent rest exponent) :
    ∀ c ∈ rest.head?, isDigit c = false ∧ c ≠ '.' := by
  cases h with
  | none => simp
  | some hmark hrest =>
    rcases hmark with rfl | rfl <;> simp <;> decide

lemma splitFraction_append {point fraction : List Char} (hpoint : Fraction point fraction)
    (hrest : ∀ c ∈ rest.head?, isDigit c = false ∧ c ≠ '.') :
    splitFraction (point ++ rest) = (fraction, rest) := by
  cases hpoint with
  | none =>
    cases rest with
    | nil => rfl
    | cons c rest => simp [splitFraction, (hrest c rfl).2]
  | point hdigits =>
    obtain ⟨htake, hdrop⟩ := span_digits hdigits fun c hc => (hrest c hc).1
    rw [List.cons_append, splitFraction, htake, hdrop]

lemma fraction_splitFraction (cs : List Char) :
    ∃ point, Fraction point (splitFraction cs).1 ∧ cs = point ++ (splitFraction cs).2 := by
  unfold splitFraction
  split
  · rename_i rest
    exact ⟨'.' :: rest.takeWhile isDigit, .point (allDigits_takeWhile rest), by simp⟩
  · exact ⟨[], .none, rfl⟩

lemma Fraction.head {point fraction : List Char} (hpoint : Fraction point fraction)
    (hrest : ∀ c ∈ rest.head?, isDigit c = false ∧ c ≠ '.') :
    ∀ c ∈ (point ++ rest).head?, isDigit c = false := by
  cases hpoint with
  | none => exact fun c hc => (hrest c hc).1
  | point hdigits =>
    rintro c hc
    obtain rfl : '.' = c := by simpa using hc
    decide

lemma readNumber_eq_some_iff {negative : Bool} {n : Numeral} :
    readNumber negative cs = some n ↔ Number negative cs n := by
  constructor
  · intro h
    obtain ⟨point, hpoint, hcs⟩ := fraction_splitFraction (cs.dropWhile isDigit)
    have hwhole : cs =
        cs.takeWhile isDigit ++ (point ++ (splitFraction (cs.dropWhile isDigit)).2) := by
      rw [← hcs, List.takeWhile_append_dropWhile]
    rw [readNumber, Option.ite_none_left_eq_some, Option.map_eq_some_iff] at h
    obtain ⟨hsome, exponent, hexponent, rfl⟩ := h
    rw [digitsValue_append]
    nth_rewrite 1 [hwhole]
    refine .intro (allDigits_takeWhile cs) hpoint ?_ (readExponent_eq_some_iff.mp hexponent)
    simpa [or_iff_not_imp_left] using hsome
  · rintro ⟨hwhole, hpoint, hsome, hexponent⟩
    obtain ⟨htake, hdrop⟩ := span_digits hwhole (hpoint.head hexponent.head)
    rw [readNumber, htake, hdrop, splitFraction_append hpoint hexponent.head]
    simp only [readExponent_eq_some_iff.mpr hexponent, digitsValue_append, Option.map_some]
    rw [if_neg]
    simpa [or_iff_not_imp_left] using hsome

/-- A number starts with a digit or a point. -/
lemma Number.head {negative : Bool} {n : Numeral} (h : Number negative cs n) :
    ∃ c rest, cs = c :: rest ∧ (isDigit c = true ∨ c = '.') := by
  obtain @⟨whole, point, fraction, rest, exponent, hwhole, hpoint, hsome, hrest⟩ := h
  cases whole with
  | cons c whole => exact ⟨c, _, rfl, .inl (hwhole c List.mem_cons_self)⟩
  | nil =>
    cases hpoint with
    | none => simp at hsome
    | point hdigits => exact ⟨'.', _, rfl, .inr rfl⟩

lemma readUnsigned_eq_some_iff {negative : Bool} {n : Numeral} :
    readUnsigned negative cs = some n ↔ Unsigned negative cs n := by
  simp only [readUnsigned, Bool.or_eq_true, ofList_beq]
  constructor
  · intro h
    split_ifs at h with hinfinite hnan
    · cases h
      exact .infinite hinfinite
    · cases h
      exact .notANumber hnan
    · exact .number (readNumber_eq_some_iff.mp h)
  · intro h
    cases h with
    | infinite hword => rw [if_pos hword]
    | notANumber hword =>
      rw [if_neg, if_pos hword]
      rw [hword]
      decide
    | number hnumber =>
      obtain ⟨c, rest, rfl, hc⟩ := hnumber.head
      rw [if_neg, if_neg, readNumber_eq_some_iff]
      · exact hnumber
      · exact map_toLower_ne hc _ (.inr rfl)
      · rintro (hword | hword)
        · exact map_toLower_ne hc _ (.inl rfl) hword
        · exact map_toLower_ne hc _ (.inl rfl) hword

lemma signless_of_word {word : List Char} (h : cs.map Char.toLower = word)
    (hword : word.head? = some 'i' ∨ word.head? = some 'n') : cs ≠ [] ∧ Signless cs := by
  subst h
  cases cs with
  | nil => simp at hword
  | cons c rest =>
    refine ⟨List.cons_ne_nil c rest, signless_cons.mpr ?_⟩
    rw [List.map_cons, List.head?_cons, Option.some.injEq, Option.some.injEq] at hword
    constructor <;> rintro rfl <;> exact absurd hword (by decide)

/-- What follows a sign is not empty and starts with no other sign. -/
lemma Unsigned.signless {negative : Bool} {n : Numeral} (h : Unsigned negative cs n) :
    cs ≠ [] ∧ Signless cs := by
  cases h with
  | infinite hword =>
    rcases hword with hword | hword
    · exact signless_of_word hword (.inl rfl)
    · exact signless_of_word hword (.inl rfl)
  | notANumber hword => exact signless_of_word hword (.inr rfl)
  | number hnumber =>
    obtain ⟨c, rest, rfl, hc⟩ := hnumber.head
    refine ⟨List.cons_ne_nil c rest, signless_cons.mpr ?_⟩
    constructor <;> rintro rfl <;> exact absurd hc (by decide)

lemma read_append {s : String} {sign : List Char} {negative : Bool} (hs : s.toList = sign ++ rest)
    (hsign : Sign sign negative) (hsignless : sign = [] → rest ≠ [] ∧ Signless rest) :
    read s = (readUnsigned negative rest).elim (.error .malformed) .ok := by
  rw [read, hs]
  cases hsign with
  | none =>
    obtain ⟨hsome, hfirst⟩ := hsignless rfl
    cases rest with
    | nil => exact absurd rfl hsome
    | cons c rest =>
      obtain ⟨hminus, hplus⟩ := signless_cons.mp hfirst
      simp [hminus, hplus]
  | plus => rfl
  | minus => rfl

/-- A text is read as a numeral if and only if it spells it. -/
theorem read_eq_ok_iff {s : String} {n : Numeral} : read s = .ok n ↔ Spells s.toList n := by
  constructor
  · intro h
    obtain ⟨sign, rest, negative, hsign, hsignless, hs⟩ := exists_sign s.toList
    have hsome : sign = [] → rest ≠ [] := by
      rintro rfl rfl
      rw [read, hs] at h
      cases h
    rw [read_append hs hsign fun hnil => ⟨hsome hnil, hsignless hnil⟩] at h
    cases hrest : readUnsigned negative rest with
    | none =>
      rw [hrest] at h
      cases h
    | some m =>
      rw [hrest] at h
      cases h
      rw [hs]
      exact .intro hsign (readUnsigned_eq_some_iff.mp hrest)
  · intro h
    generalize hs : s.toList = cs at h
    cases h with
    | intro hsign hrest =>
      rw [read_append hs hsign fun _ => hrest.signless, readUnsigned_eq_some_iff.mpr hrest]
      rfl

/-- A float is read from the texts that spell a numeral. -/
lemma readFloat_eq_ok_iff {s : String} {x : Float} :
    readFloat s = .ok x ↔ ∃ n, Spells s.toList n ∧ n.toFloat = x := by
  simp only [readFloat, ← read_eq_ok_iff]
  cases read s with
  | error e => simp [Except.map]
  | ok n => simp [Except.map]

/-- A text that is no numeral is empty, or malformed. -/
lemma error_of_read {s : String} {e : NumeralError} (h : read s = .error e) :
    e = if s = "" then .empty else .malformed := by
  have helim : ∀ {found : Option Numeral},
      (found.elim (.error .malformed) .ok : Except NumeralError Numeral) = .error e →
      e = .malformed := by
    rintro (_ | n) hfound <;> cases hfound
    rfl
  by_cases hs : s = ""
  · subst hs
    cases h
    rfl
  · rw [if_neg hs]
    rw [read] at h
    split at h
    · exact absurd (String.toList_eq_nil_iff.mp ‹_›) hs
    all_goals exact helim h

end Reading

end ClusterCost.Numeral
