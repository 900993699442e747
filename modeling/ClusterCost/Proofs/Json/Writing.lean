import ClusterCost.Proofs.Json.Integers

/-!
# Writing what the grammar allows

Both written forms of a value are texts of the grammar that say this value (`text_compact_of_exact`,
`text_pretty_of_exact`), for the values that are read as they were written: those whose numbers are
whole and have 64 bits. A value without numbers is one of these (`NumberFree.exact`).
-/

namespace ClusterCost.Json

namespace Value

/-! ### Texts -/

lemma escapeByte_of_ge {b : UInt8} (h : 0x80 ≤ b.toNat) : escapeByte b = [b] := by
  have hne := @Utf8.beq_eq_false_of_ge b h
  rw [escapeByte, hne 0x22, hne 0x5C, hne 0x08, hne 0x0C, hne 0x0A, hne 0x0D, hne 0x09,
    if_neg (Utf8.not_control_of_ge h)]
  rfl

lemma flatMap_escapeByte_of_ge {bytes : Bytes} (h : ∀ b ∈ bytes, 0x80 ≤ b.toNat) :
    bytes.flatMap escapeByte = bytes := by
  induction bytes with
  | nil => rfl
  | cons b rest ih =>
    rw [List.flatMap_cons, escapeByte_of_ge (h b (by simp)),
      ih fun b' hb' => h b' (List.mem_cons_of_mem b hb')]
    rfl

/-- The escape of a control character has its code. -/
lemma hexUnit?_hexDigit :
    ∀ n < 32, Scan.hexUnit? [0x30, 0x30, hexDigit (n / 16), hexDigit (n % 16)] = some (some n) := by
  decide

/-- An escaped character spells that character. -/
lemma spellsChar_escape (c : Char) (rest : Bytes) :
    SpellsChar ((String.utf8EncodeChar c).flatMap escapeByte ++ rest) c rest := by
  rcases Utf8.encodeChar_cases c with ⟨hascii, hc⟩ | ⟨hnot, hbytes⟩
  · have hb : (UInt8.ofNat c.toNat).toNat = c.toNat := Utf8.toNat_ofNat (by omega)
    have hchar : ∀ d : Char, UInt8.ofNat c.toNat = UInt8.ofNat d.toNat → d.toNat < 0x80 →
        c = d := by
      intro d heq hd
      have hnat := congrArg UInt8.toNat heq
      rw [hb, Utf8.toNat_ofNat (by omega)] at hnat
      exact Char.toNat_inj.mp hnat
    have hplain := @SpellsChar.plain c
    rw [hc] at hplain ⊢
    rw [List.flatMap_singleton, escapeByte]
    simp only [beq_iff_eq]
    split_ifs with h1 h2 h3 h4 h5 h6 h7 h8
    · rw [hchar '"' h1 (by decide)]
      exact .short rfl rest
    · rw [hchar '\\' h2 (by decide)]
      exact .short rfl rest
    · rw [hchar '\x08' h3 (by decide)]
      exact .short rfl rest
    · rw [hchar '\x0c' h4 (by decide)]
      exact .short rfl rest
    · rw [hchar '\n' h5 (by decide)]
      exact .short rfl rest
    · rw [hchar '\r' h6 (by decide)]
      exact .short rfl rest
    · rw [hchar '\t' h7 (by decide)]
      exact .short rfl rest
    · rw [UInt8.lt_iff_toNat_lt, hb] at h8
      have hcode := SpellsChar.code (hexUnit?_hexDigit c.toNat h8) (by simp [Scan.isHigh]; omega)
        (by simp [Scan.isLow]; omega) rest
      rw [Char.ofNat_toNat] at hcode
      rw [hb]
      exact hcode
    · rw [UInt8.lt_iff_toNat_lt, hb] at h8
      refine hplain (Nat.le_of_not_lt h8) ?_ ?_ rest
      · rintro rfl
        exact h1 rfl
      · rintro rfl
        exact h2 rfl
  · rw [flatMap_escapeByte_of_ge hbytes]
    refine .plain (by omega) ?_ ?_ rest
    · rintro rfl
      exact absurd hnot (by decide)
    · rintro rfl
      exact absurd hnot (by decide)

lemma spells_escape (cs : List Char) (rest : Bytes) :
    Spells ((cs.flatMap String.utf8EncodeChar).flatMap escapeByte ++ 0x22 :: rest) (some cs)
      rest := by
  induction cs with
  | nil => exact .close rest
  | cons c cs ih =>
    rw [List.flatMap_cons, List.flatMap_append, List.append_assoc]
    exact .char (spellsChar_escape c _) ih

lemma writeText_append (s : String) (rest : Bytes) :
    ∃ input, writeText s ++ rest = 0x22 :: input ∧ Spells input (some s.toList) rest := by
  refine ⟨(s.toList.flatMap String.utf8EncodeChar).flatMap escapeByte ++ 0x22 :: rest, ?_,
    spells_escape s.toList rest⟩
  simp [writeText, Utf8.encode_eq_flatMap]

/-! ### Values -/

mutual

/-- No number is part of the value. -/
def NumberFree : Value → Prop
  | null | bool _ | text _ => True
  | integer _ | real _ => False
  | list items => NumberFreeItems items
  | object members => NumberFreeMembers members

/-- No number is part of the items. -/
def NumberFreeItems : List Value → Prop
  | [] => True
  | item :: rest => NumberFree item ∧ NumberFreeItems rest

/-- No number is part of the members. -/
def NumberFreeMembers : List (String × Value) → Prop
  | [] => True
  | (_, value) :: rest => NumberFree value ∧ NumberFreeMembers rest

end

mutual

/-- Each number that is part of the value is a whole number of 64 bits. -/
def Exact : Value → Prop
  | null | bool _ | text _ => True
  | integer n => Fits64 n
  | real _ => False
  | list items => ExactItems items
  | object members => ExactMembers members

/-- Each number that is part of the items is a whole number of 64 bits. -/
def ExactItems : List Value → Prop
  | [] => True
  | item :: rest => Exact item ∧ ExactItems rest

/-- Each number that is part of the members is a whole number of 64 bits. -/
def ExactMembers : List (String × Value) → Prop
  | [] => True
  | (_, value) :: rest => Exact value ∧ ExactMembers rest

end

mutual

lemma NumberFree.exact {v : Value} (h : v.NumberFree) : v.Exact := by
  cases v with
  | null => trivial
  | bool b => trivial
  | integer n => cases h
  | real x => cases h
  | text s => trivial
  | list items => exact NumberFreeItems.exact h
  | object members => exact NumberFreeMembers.exact h

lemma NumberFreeItems.exact {items : List Value} (h : NumberFreeItems items) :
    ExactItems items := by
  match items with
  | [] => trivial
  | item :: rest => exact ⟨NumberFree.exact h.1, NumberFreeItems.exact h.2⟩

lemma NumberFreeMembers.exact {members : List (String × Value)} (h : NumberFreeMembers members) :
    ExactMembers members := by
  match members with
  | [] => trivial
  | (_, value) :: rest => exact ⟨NumberFree.exact h.1, NumberFreeMembers.exact h.2⟩

end

lemma exactItems_iff {items : List Value} : ExactItems items ↔ ∀ v ∈ items, v.Exact := by
  induction items with
  | nil => simp [ExactItems]
  | cons item rest ih => rw [ExactItems, ih, List.forall_mem_cons]

lemma exactMembers_iff {members : List (String × Value)} :
    ExactMembers members ↔ ∀ m ∈ members, m.2.Exact := by
  induction members with
  | nil => simp [ExactMembers]
  | cons member rest ih => rw [ExactMembers, ih, List.forall_mem_cons]

lemma denotes_null (rest : Bytes) : Denotes (writeScalar null ++ rest) null.tree rest := by
  have hbytes : writeScalar null = [0x6E, 0x75, 0x6C, 0x6C] := by decide
  rw [hbytes]
  exact .null rest

lemma denotes_bool (b : Bool) (rest : Bytes) :
    Denotes (writeScalar (bool b) ++ rest) (bool b).tree rest := by
  cases b with
  | true =>
    have hbytes : writeScalar (bool true) = [0x74, 0x72, 0x75, 0x65] := by decide
    rw [hbytes]
    exact .yes rest
  | false =>
    have hbytes : writeScalar (bool false) = [0x66, 0x61, 0x6C, 0x73, 0x65] := by decide
    rw [hbytes]
    exact .no rest

lemma denotes_text (s : String) (rest : Bytes) :
    Denotes (writeScalar (text s) ++ rest) (text s).tree rest := by
  obtain ⟨input, hinput, hs⟩ := writeText_append s rest
  have htext := Denotes.text hs
  rw [writeScalar, hinput, tree]
  rwa [Option.map_some, String.ofList_toList] at htext

/-! ### The compact form -/

/-- What is written for one member. -/
lemma denotesMember_compact (key : String) {v : Value} {rest : Bytes}
    (h : Denotes (compact v ++ rest) v.tree rest) :
    DenotesMember (writeText key ++ 0x3A :: (compact v ++ rest)) (some key, v.tree) rest := by
  obtain ⟨input, hinput, hkey⟩ := writeText_append key (0x3A :: (compact v ++ rest))
  rw [hinput]
  simpa using DenotesMember.intro hkey (.none _) (.none _) h

/-- What is written for items and the closing bracket, whatever follows it. -/
lemma denotesItems_compact {items : List Value}
    (h : ∀ v ∈ items, ∀ rest, Ends rest → Denotes (compact v ++ rest) v.tree rest) (rest : Bytes) :
    DenotesItems (compactItems items ++ 0x5D :: rest) (itemTrees items) rest := by
  match items with
  | [] => exact .none (.none _)
  | [item] =>
    rw [compactItems]
    exact .some (.none _) (h item List.mem_cons_self _ (ends_cons rest)) (.none _) (.none rest)
  | item :: second :: items =>
    obtain ⟨hitem, hitems⟩ := List.forall_mem_cons.mp h
    have hmore := denotesItems_compact hitems rest
    cases hmore with
    | some hbefore hv hafter hmore =>
      simp only [compactItems, List.append_assoc, List.cons_append]
      exact .some (.none _) (hitem _ (ends_cons _)) (.none _) (.some hbefore hv hafter hmore)

lemma denotesMembers_compact {members : List (String × Value)}
    (h : ∀ m ∈ members, ∀ rest, Ends rest → Denotes (compact m.2 ++ rest) m.2.tree rest)
    (rest : Bytes) :
    DenotesMembers (compactMembers members ++ 0x7D :: rest) (memberTrees members) rest := by
  match members with
  | [] => exact .none (.none _)
  | [(key, v)] =>
    simp only [compactMembers, List.append_assoc, List.cons_append]
    exact .some (.none _)
      (denotesMember_compact key (h (key, v) List.mem_cons_self _ (ends_cons rest))) (.none _)
      (.none rest)
  | (key, v) :: second :: members =>
    obtain ⟨hv, hmembers⟩ := List.forall_mem_cons.mp h
    have hmore := denotesMembers_compact hmembers rest
    cases hmore with
    | some hbefore hm hafter hmore =>
      simp only [compactMembers, List.append_assoc, List.cons_append]
      exact .some (.none _) (denotesMember_compact key (hv _ (ends_cons _))) (.none _)
        (.some hbefore hm hafter hmore)

lemma denotes_list_of_ends {items : List Value}
    (h : ∀ v ∈ items, ∀ rest, Ends rest → Denotes (compact v ++ rest) v.tree rest) (rest : Bytes) :
    Denotes (compact (list items) ++ rest) (list items).tree rest := by
  have hbytes : compact (list items) ++ rest = 0x5B :: (compactItems items ++ 0x5D :: rest) := by
    simp [compact]
  rw [hbytes]
  exact .list (denotesItems_compact h rest)

lemma denotes_object_of_ends {members : List (String × Value)}
    (h : ∀ m ∈ members, ∀ rest, Ends rest → Denotes (compact m.2 ++ rest) m.2.tree rest)
    (rest : Bytes) : Denotes (compact (object members) ++ rest) (object members).tree rest := by
  have hbytes : compact (object members) ++ rest =
      0x7B :: (compactMembers members ++ 0x7D :: rest) := by
    simp [compact]
  rw [hbytes]
  exact .object (denotesMembers_compact h rest)

lemma denotes_list {items : List Value}
    (h : ∀ v ∈ items, ∀ rest, Denotes (compact v ++ rest) v.tree rest) (rest : Bytes) :
    Denotes (compact (list items) ++ rest) (list items).tree rest :=
  denotes_list_of_ends (fun v hv rest _ => h v hv rest) rest

lemma denotes_object {members : List (String × Value)}
    (h : ∀ m ∈ members, ∀ rest, Denotes (compact m.2 ++ rest) m.2.tree rest) (rest : Bytes) :
    Denotes (compact (object members) ++ rest) (object members).tree rest :=
  denotes_object_of_ends (fun m hm rest _ => h m hm rest) rest

mutual

/-- A number ends where what follows does not belong to it; any other value ends by itself. -/
lemma denotes_compact_of_exact (v : Value) (h : v.Exact) (rest : Bytes)
    (hrest : v.NumberFree ∨ Ends rest) : Denotes (compact v ++ rest) v.tree rest := by
  cases v with
  | null => exact denotes_null rest
  | bool b => exact denotes_bool b rest
  | integer n => exact denotes_integer h (hrest.resolve_left id)
  | real x => cases h
  | text s => exact denotes_text s rest
  | list items => exact denotes_list_of_ends (denotes_compactItems items h) rest
  | object members => exact denotes_object_of_ends (denotes_compactMembers members h) rest

lemma denotes_compactItems (items : List Value) (h : ExactItems items) :
    ∀ v ∈ items, ∀ rest, Ends rest → Denotes (compact v ++ rest) v.tree rest := by
  match items with
  | [] => exact fun _ hv => absurd hv List.not_mem_nil
  | item :: items =>
    refine List.forall_mem_cons.mpr ⟨fun rest hrest => ?_, denotes_compactItems items h.2⟩
    exact denotes_compact_of_exact item h.1 rest (.inr hrest)

lemma denotes_compactMembers (members : List (String × Value)) (h : ExactMembers members) :
    ∀ m ∈ members, ∀ rest, Ends rest → Denotes (compact m.2 ++ rest) m.2.tree rest := by
  match members with
  | [] => exact fun _ hm => absurd hm List.not_mem_nil
  | (key, v) :: members =>
    refine List.forall_mem_cons.mpr ⟨fun rest hrest => ?_, denotes_compactMembers members h.2⟩
    exact denotes_compact_of_exact v h.1 rest (.inr hrest)

end

lemma denotes_compact (v : Value) (h : v.NumberFree) (rest : Bytes) :
    Denotes (compact v ++ rest) v.tree rest :=
  denotes_compact_of_exact v h.exact rest (.inl h)

/-- The compact form of a value says this value. -/
theorem text_compact_of_exact {v : Value} (h : v.Exact) : Text v.compact v := by
  refine ⟨_, [], .none _, ?_, .none _⟩
  rw [← List.append_nil (compact v)]
  exact denotes_compact_of_exact v h [] (.inr ends_nil)

theorem text_compact {v : Value} (h : v.NumberFree) : Text v.compact v :=
  text_compact_of_exact h.exact

/-! ### The pretty form -/

lemma blanks_newLine (level : Nat) (rest : Bytes) : Blanks (newLine level ++ rest) rest := by
  have hspaces : ∀ n, Blanks (List.replicate n 0x20 ++ rest) rest := by
    intro n
    induction n with
    | zero => exact .none rest
    | succ n ih => exact .some rfl ih
  exact .some rfl (hspaces (2 * level))

/-- What is written for one member. -/
lemma denotesMember_pretty (key : String) {v : Value} {level : Nat} {rest : Bytes}
    (h : Denotes (prettyAt level v ++ rest) v.tree rest) :
    DenotesMember (writeText key ++ 0x3A :: 0x20 :: (prettyAt level v ++ rest)) (some key, v.tree)
      rest := by
  obtain ⟨input, hinput, hkey⟩ := writeText_append key (0x3A :: 0x20 :: (prettyAt level v ++ rest))
  rw [hinput]
  simpa using DenotesMember.intro hkey (.none _) (.some rfl (.none _)) h

mutual

lemma denotes_prettyAt (v : Value) (h : v.Exact) (level : Nat) {rest : Bytes} (hrest : Ends rest) :
    Denotes (prettyAt level v ++ rest) v.tree rest := by
  cases v with
  | null => exact denotes_null rest
  | bool b => exact denotes_bool b rest
  | integer n => exact denotes_integer h hrest
  | real x => cases h
  | text s => exact denotes_text s rest
  | list items =>
    have hitems := denotes_prettyItems items h (level + 1) (blanks_newLine level (0x5D :: rest))
    cases items with
    | nil => exact .list (.none (.none _))
    | cons item items =>
      have hbytes : prettyAt level (list (item :: items)) ++ rest =
          0x5B :: (prettyItems (level + 1) (item :: items) ++ (newLine level ++ 0x5D :: rest)) := by
        simp [prettyAt]
      rw [hbytes]
      exact .list hitems
  | object members =>
    have hmembers := denotes_prettyMembers members h (level + 1)
      (blanks_newLine level (0x7D :: rest))
    cases members with
    | nil => exact .object (.none (.none _))
    | cons m ms =>
      have hbytes : prettyAt level (object (m :: ms)) ++ rest =
          0x7B :: (prettyMembers (level + 1) (m :: ms) ++ (newLine level ++ 0x7D :: rest)) := by
        simp [prettyAt]
      rw [hbytes]
      exact .object hmembers

lemma denotes_prettyItems (items : List Value) (h : ExactItems items) (level : Nat)
    {tail rest : Bytes} (htail : Blanks tail (0x5D :: rest)) :
    DenotesItems (prettyItems level items ++ tail) (itemTrees items) rest := by
  match items with
  | [] => exact .none htail
  | [item] =>
    refine .some ?_ (denotes_prettyAt item h.1 level (htail.ends (ends_cons rest))) htail
      (.none rest)
    rw [prettyItems, List.append_assoc]
    exact blanks_newLine level _
  | item :: second :: items =>
    have hmore := denotes_prettyItems (second :: items) h.2 level htail
    cases hmore with
    | some hbefore hv hafter hmore =>
      refine .some ?_ (denotes_prettyAt item h.1 level (ends_cons _)) (.none _)
        (.some hbefore hv hafter hmore)
      simp only [prettyItems, List.append_assoc, List.cons_append]
      exact blanks_newLine level _

lemma denotes_prettyMembers (members : List (String × Value)) (h : ExactMembers members)
    (level : Nat) {tail rest : Bytes} (htail : Blanks tail (0x7D :: rest)) :
    DenotesMembers (prettyMembers level members ++ tail) (memberTrees members) rest := by
  match members with
  | [] => exact .none htail
  | [(key, v)] =>
    refine .some ?_ (denotesMember_pretty key
      (denotes_prettyAt v h.1 level (htail.ends (ends_cons rest)))) htail (.none rest)
    simp only [prettyMembers, List.append_assoc, List.cons_append]
    exact blanks_newLine level _
  | (key, v) :: second :: members =>
    have hmore := denotes_prettyMembers (second :: members) h.2 level htail
    cases hmore with
    | some hbefore hm hafter hmore =>
      refine .some ?_ (denotesMember_pretty key (denotes_prettyAt v h.1 level (ends_cons _)))
        (.none _) (.some hbefore hm hafter hmore)
      simp only [prettyMembers, List.append_assoc, List.cons_append]
      exact blanks_newLine level _

end

/-- The pretty form of a value says this value. -/
theorem text_pretty_of_exact {v : Value} (h : v.Exact) : Text v.pretty v := by
  refine ⟨_, [], .none _, ?_, .none _⟩
  rw [pretty, ← List.append_nil (prettyAt 0 v)]
  exact denotes_prettyAt v h 0 ends_nil

theorem text_pretty {v : Value} (h : v.NumberFree) : Text v.pretty v := text_pretty_of_exact h.exact

end Value

end ClusterCost.Json
