import ClusterCost.Proofs.Json.Scan

/-!
# What readers take

A reader is told by what it makes of trees: `Reads r read means` says that `read`, used in the way
`r`, takes an outline for a value just if what the outline says means this value, and that it takes
no outline with a fault. So a text is read as a value just if the grammar has a tree for the text
that means the value (`readText_eq_ok_iff`).
-/

namespace ClusterCost.Json

/-- A reader takes what an outline says for what it means, and it takes no outline with a fault. -/
structure Reads {α : Type} (r : Reading) (read : Reader α) (means : Tree → α → Prop) : Prop where
  ok_iff : ∀ {o : Outline} {t : Tree}, o.tree? = some t → ∀ a, read r o = .ok a ↔ means t a
  /-- Outlines that were set aside are known to have no fault. -/
  whole : r.held = false → ∀ {o : Outline} {a : α}, read r o = .ok a → ∃ t, o.tree? = some t

section Reads

variable {α β : Type} {r : Reading} {read : Reader α} {means : Tree → α → Prop}

lemma Reads.ok_iff_exists (h : Reads r read means) (hheld : r.held = false) (o : Outline) (a : α) :
    read r o = .ok a ↔ ∃ t, o.tree? = some t ∧ means t a := by
  constructor
  · intro hread
    obtain ⟨t, ht⟩ := h.whole hheld hread
    exact ⟨t, ht, (h.ok_iff ht a).mp hread⟩
  · rintro ⟨t, ht, hmeans⟩
    exact (h.ok_iff ht a).mpr hmeans

lemma Reads.map (h : Reads r read means) (f : α → β) :
    Reads r (fun r o => (read r o).map f) fun t b => ∃ a, means t a ∧ f a = b where
  ok_iff ht b := by simp only [map_eq_ok_iff, h.ok_iff ht]
  whole hheld _ _ hread := by
    obtain ⟨a, ha, -⟩ := map_eq_ok_iff.mp hread
    exact h.whole hheld ha

/-! ### Scalars -/

/-- A text means itself, if it can be decoded. -/
def MeansText (t : Tree) (s : String) : Prop := t = .text (some s)

lemma reads_text (r : Reading) : Reads r Reader.text MeansText where
  ok_iff ht s := by
    cases Outline.tree?_eq_some_iff.mp ht with
    | text start stop value => cases value <;> simp [Reader.text, MeansText, Except.toOption]
    | _ => simp [Reader.text, MeansText]
  whole _ o s hread := by
    unfold Reader.text at hread
    split at hread
    · exact ⟨_, rfl⟩
    · cases hread

/-- A number means the nearest float. -/
def MeansReal (t : Tree) (x : Float) : Prop := ∃ n : Number, t = .number (some n) ∧ n.toFloat = x

lemma reads_real (r : Reading) : Reads r Reader.real MeansReal where
  ok_iff ht x := by
    cases Outline.tree?_eq_some_iff.mp ht with
    | number start stop ahead value =>
      cases value <;> simp [Reader.real, MeansReal, Except.toOption]
    | _ => simp [Reader.real, MeansReal]
  whole _ o x hread := by
    unfold Reader.real at hread
    split at hread
    · exact ⟨_, rfl⟩
    · cases hread

/-- A truth value means itself. -/
def MeansBool (t : Tree) (b : Bool) : Prop := t = .bool b

lemma reads_bool (r : Reading) : Reads r Reader.bool MeansBool where
  ok_iff ht b := by
    cases Outline.tree?_eq_some_iff.mp ht with
    | bool start stop value => simp [Reader.bool, MeansBool]
    | _ => simp [Reader.bool, MeansBool]
  whole _ o b hread := by
    unfold Reader.bool at hread
    split at hread
    · exact ⟨_, rfl⟩
    · cases hread

/-- A whole number means itself, if it is not too large to have a sign. -/
inductive MeansInteger : Tree → Int → Prop
  | natural {n : Nat} (h : n < Nat.pow 2 63) : MeansInteger (.number (some (.natural n))) n
  | negative (n : Nat) : MeansInteger (.number (some (.negative n))) (-n)

lemma integer_number_eq_ok_iff {start stop ahead : Nat} {value : Except RangeFault Number}
    {n : Int} :
    Reader.integer r (.number start stop ahead value) = .ok n ↔
      MeansInteger (.number value.toOption) n := by
  constructor
  · intro h
    unfold Reader.integer at h
    split at h
    · rename_i heq
      cases heq
      split_ifs at h with hsmall
      cases h
      exact .natural hsmall
    · rename_i heq
      cases heq
      cases h
      exact .negative _
    · cases h
  · intro h
    generalize hn : value.toOption = number at h
    cases h with
    | natural hsmall =>
      rw [toOption_eq_some_iff.mp hn, Reader.integer, if_pos hsmall]
    | negative n => rw [toOption_eq_some_iff.mp hn, Reader.integer]

lemma reads_integer (r : Reading) : Reads r Reader.integer MeansInteger where
  ok_iff ht n := by
    cases Outline.tree?_eq_some_iff.mp ht with
    | number start stop ahead value => exact integer_number_eq_ok_iff
    | _ =>
      simp only [Reader.integer, reduceCtorEq, false_iff]
      rintro ⟨⟩
  whole _ o n hread := by
    cases o with
    | number start stop ahead value => exact ⟨_, rfl⟩
    | _ => cases hread

/-- Nothing is meant by `null`, and otherwise what is meant without the choice. -/
def MeansOptional (means : Tree → α → Prop) : Tree → Option α → Prop
  | .null, a => a = none
  | t, a => ∃ x, means t x ∧ a = some x

lemma MeansOptional.follows {γ : Type} {f : α → γ} {g : β → γ} {other : Tree → β → Prop}
    (h : ∀ t a, means t a → ∃ b, other t b ∧ f a = g b) {t : Tree} {a : Option α}
    (hmeans : MeansOptional means t a) :
    ∃ b, MeansOptional other t b ∧ a.map f = b.map g := by
  cases t with
  | null =>
    obtain rfl : a = none := hmeans
    exact ⟨none, rfl, rfl⟩
  | _ =>
    obtain ⟨x, hx, rfl⟩ := hmeans
    obtain ⟨y, hy, heq⟩ := h _ x hx
    exact ⟨some y, ⟨y, hy, rfl⟩, congrArg some heq⟩

lemma Reads.optional (h : Reads r read means) :
    Reads r (Reader.optional read) (MeansOptional means) where
  ok_iff {o t} ht a := by
    have hsome : (read r o).map some = .ok a ↔ ∃ x, means t x ∧ a = some x := by
      simp only [map_eq_ok_iff, h.ok_iff ht, eq_comm (a := a)]
    cases Outline.tree?_eq_some_iff.mp ht with
    | null start stop => simp [Reader.optional, MeansOptional, eq_comm]
    | _ => exact hsome
  whole hheld o a hread := by
    unfold Reader.optional at hread
    split at hread
    · exact ⟨_, rfl⟩
    · obtain ⟨x, hx, -⟩ := map_eq_ok_iff.mp hread
      exact h.whole hheld hx

/-! ### Lists and maps -/

/-- A list means the list of what its items mean. -/
def MeansList (means : Tree → α → Prop) (t : Tree) (as : List α) : Prop :=
  ∃ ts, t = .list ts ∧ List.Forall₂ means ts as

lemma MeansList.map_iff {other : Tree → β → Prop} {f : β → α}
    (h : ∀ t a, means t a ↔ ∃ b, other t b ∧ f b = a) {t : Tree} {as : List α} :
    MeansList means t as ↔ ∃ bs, MeansList other t bs ∧ bs.map f = as := by
  constructor
  · rintro ⟨ts, rfl, hmeans⟩
    obtain ⟨bs, hbs, rfl⟩ : ∃ bs, List.Forall₂ other ts bs ∧ bs.map f = as := by
      induction hmeans with
      | nil => exact ⟨[], .nil, rfl⟩
      | cons ha hrest ih =>
        obtain ⟨b, hb, rfl⟩ := (h _ _).mp ha
        obtain ⟨bs, hbs, rfl⟩ := ih
        exact ⟨b :: bs, .cons hb hbs, rfl⟩
    exact ⟨bs, ⟨ts, rfl, hbs⟩, rfl⟩
  · rintro ⟨bs, ⟨ts, rfl, hbs⟩, rfl⟩
    exact ⟨ts, rfl,
      List.forall₂_map_right_iff.mpr (hbs.imp fun t b hb => (h t (f b)).mpr ⟨b, hb, rfl⟩)⟩

/-- A list has no fault if its items have none. -/
lemma itemTrees?_of_whole {items : List Outline} (h : ∀ o ∈ items, ∃ t, o.tree? = some t) :
    ∃ ts, Outline.itemTrees? items = some ts := by
  obtain ⟨ts, hts⟩ := exists_forall₂ h
  exact ⟨ts, Outline.itemTrees?_eq_some_iff.mpr hts⟩

lemma memberTrees?_of_whole {members : List (Key × Outline)}
    (h : ∀ m ∈ members, ∃ t, m.2.tree? = some t) :
    ∃ ms, Outline.memberTrees? members = some ms := by
  obtain ⟨ms, hms⟩ := exists_forall₂ (R := fun (m : Key × Outline) (p : Option String × Tree) =>
      m.1.text.toOption = p.1 ∧ m.2.tree? = some p.2) fun m hm => by
    obtain ⟨t, ht⟩ := h m hm
    exact ⟨(m.1.text.toOption, t), rfl, ht⟩
  exact ⟨ms, Outline.memberTrees?_eq_some_iff.mpr hms⟩

lemma list_eq_ok_iff {start : Nat} {items : List Outline} {closing : Except Fault Nat}
    {as : List α} :
    Reader.list read r (.list start items closing) = .ok as ↔
      r.Opens ∧ List.Forall₂ (fun o a => read r.inner o = .ok a) items as ∧
      ∃ stop, closing = .ok stop := by
  simp only [Reader.list, bind_eq_ok_iff, mapM_eq_ok_iff, Reading.enter_eq_ok_iff]
  constructor
  · rintro ⟨inner, ⟨hopens, rfl⟩, values, hvalues, hclosing⟩
    cases closing with
    | error fault => cases hclosing
    | ok stop =>
      cases hclosing
      exact ⟨hopens, hvalues, stop, rfl⟩
  · rintro ⟨hopens, hvalues, stop, rfl⟩
    exact ⟨r.inner, ⟨hopens, rfl⟩, as, hvalues, rfl⟩

lemma Reads.list (h : Reads r.inner read means) (hopens : r.Opens) :
    Reads r (Reader.list read) (MeansList means) where
  ok_iff ht as := by
    cases Outline.tree?_eq_some_iff.mp ht with
    | list start stop hitems =>
      rw [list_eq_ok_iff, Forall₂.congr_left hitems h.ok_iff]
      simp [hopens, MeansList]
    | _ => simp [Reader.list, MeansList]
  whole hheld o as hread := by
    cases o with
    | list start items closing =>
      obtain ⟨-, hvalues, stop, rfl⟩ := list_eq_ok_iff.mp hread
      obtain ⟨ts, hts⟩ := itemTrees?_of_whole fun o ho => by
        obtain ⟨a, -, ha⟩ := Forall₂.exists_of_mem hvalues ho
        exact h.whole (by rw [Reading.held_inner, hheld]) ha
      exact ⟨.list ts, by rw [Outline.tree?, hts, Option.map_some]⟩
    | _ => cases hread

/-- An object means its keys, each with what its value means. -/
def MeansMembers (means : Tree → α → Prop) (t : Tree) (as : List (String × α)) : Prop :=
  ∃ ms, t = .object ms ∧ List.Forall₂ (fun m a => m.1 = some a.1 ∧ means m.2 a.2) ms as

lemma members_eq_ok_iff {start : Nat} {members : List (Key × Outline)} {closing : Except Fault Nat}
    {as : List (String × α)} :
    Reader.members read r (.object start members closing) = .ok as ↔
      r.Opens ∧
      List.Forall₂ (fun m a => m.1.text = .ok a.1 ∧ read r.inner m.2 = .ok a.2) members as ∧
      ∃ stop, closing = .ok stop := by
  have hmember : ∀ (m : Key × Outline) (a : String × α),
      (∃ name, m.1.text = .ok name ∧ ∃ b, read r.inner m.2 = .ok b ∧
      pure (name, b) = Except.ok (ε := Failure) a) ↔
        m.1.text = .ok a.1 ∧ read r.inner m.2 = .ok a.2 := by
    rintro ⟨key, value⟩ ⟨name, a⟩
    constructor
    · rintro ⟨name', hkey, a', hvalue, heq⟩
      cases heq
      exact ⟨hkey, hvalue⟩
    · rintro ⟨hkey, hvalue⟩
      exact ⟨name, hkey, a, hvalue, rfl⟩
  simp only [Reader.members, bind_eq_ok_iff, mapM_eq_ok_iff, Reading.enter_eq_ok_iff]
  constructor
  · rintro ⟨inner, ⟨hopens, rfl⟩, values, hvalues, hclosing⟩
    cases closing with
    | error fault => cases hclosing
    | ok stop =>
      cases hclosing
      exact ⟨hopens, hvalues.imp fun m a => (hmember m a).mp, stop, rfl⟩
  · rintro ⟨hopens, hvalues, stop, rfl⟩
    exact ⟨r.inner, ⟨hopens, rfl⟩, as, hvalues.imp fun m a => (hmember m a).mpr, rfl⟩

lemma Reads.members (h : Reads r.inner read means) (hopens : r.Opens) :
    Reads r (Reader.members read) (MeansMembers means) where
  ok_iff ht as := by
    cases Outline.tree?_eq_some_iff.mp ht with
    | object start stop hmembers =>
      rw [members_eq_ok_iff,
        Forall₂.congr_left hmembers (T := fun m a => m.1 = some a.1 ∧ means m.2 a.2)]
      · simp [hopens, MeansMembers]
      · rintro ⟨key, value⟩ m ⟨hkey, hvalue⟩ a
        dsimp only at hkey
        rw [h.ok_iff hvalue, ← hkey, toOption_eq_some_iff]
    | _ => simp [Reader.members, MeansMembers]
  whole hheld o as hread := by
    cases o with
    | object start members closing =>
      obtain ⟨-, hvalues, stop, rfl⟩ := members_eq_ok_iff.mp hread
      obtain ⟨ms, hms⟩ := memberTrees?_of_whole fun m hm => by
        obtain ⟨a, -, -, ha⟩ := Forall₂.exists_of_mem hvalues hm
        exact h.whole (by rw [Reading.held_inner, hheld]) ha
      exact ⟨.object ms, by rw [Outline.tree?, hms, Option.map_some]⟩
    | _ => cases hread

/-! ### Lists of fixed length -/

lemma tooShort_ne_ok {length : Nat} {expected : String} {closing : Except Fault Nat} {a : α} :
    Reader.tooShort r length expected closing ≠ .ok a := by
  cases closing <;> simp [Reader.tooShort]

/-- A list does not go on after its last wanted item, and is closed. -/
lemma overrun_eq_ok_iff {wanted : Nat} {items : List Outline} {closing : Except Fault Nat}
    {done : Unit} :
    Reader.overrun r wanted items closing = .ok done ↔
      items.drop wanted = [] ∧ ∃ stop, closing = .ok stop := by
  unfold Reader.overrun
  generalize items.drop wanted = left
  cases left with
  | nil =>
    cases closing with
    | ok stop => simp
    | error fault =>
      simp only [reduceCtorEq, exists_const, and_false, iff_false]
      split <;> simp
  | cons next rest =>
    simp only [reduceCtorEq, false_and, iff_false]
    split_ifs <;> simp

/-- Two items mean a pair. -/
def MeansPair (first : Tree → α → Prop) (second : Tree → β → Prop) (t : Tree) (p : α × β) : Prop :=
  ∃ x y, t = .list [x, y] ∧ first x p.1 ∧ second y p.2

lemma pair_eq_ok_iff {other : Reader β} {start : Nat} {items : List Outline}
    {closing : Except Fault Nat} {p : α × β} :
    Reader.pair read other r (.list start items closing) = .ok p ↔
      r.Opens ∧ (∃ a b, items = [a, b] ∧ read r.inner a = .ok p.1 ∧ other r.inner b = .ok p.2) ∧
      ∃ stop, closing = .ok stop := by
  simp only [Reader.pair, bind_eq_ok_iff, Reading.enter_eq_ok_iff]
  constructor
  · rintro ⟨inner, ⟨hopens, rfl⟩, h⟩
    obtain _ | ⟨a, _ | ⟨b, rest⟩⟩ := items
    · exact absurd h tooShort_ne_ok
    · obtain ⟨x, hx, h⟩ := bind_eq_ok_iff.mp h
      exact absurd h tooShort_ne_ok
    · simp only [bind_eq_ok_iff, overrun_eq_ok_iff] at h
      obtain ⟨x, hx, y, hy, -, ⟨hdrop, hclosing⟩, heq⟩ := h
      cases heq
      simp only [List.drop_succ_cons, List.drop_zero] at hdrop
      subst hdrop
      exact ⟨hopens, ⟨a, b, rfl, hx, hy⟩, hclosing⟩
  · rintro ⟨hopens, ⟨a, b, rfl, hx, hy⟩, hclosing⟩
    refine ⟨r.inner, ⟨hopens, rfl⟩, ?_⟩
    simp only [bind_eq_ok_iff, overrun_eq_ok_iff]
    exact ⟨p.1, hx, p.2, hy, (), ⟨rfl, hclosing⟩, rfl⟩

lemma Reads.pair {other : Reader β} {second : Tree → β → Prop} (h : Reads r.inner read means)
    (h' : Reads r.inner other second) (hopens : r.Opens) :
    Reads r (Reader.pair read other) (MeansPair means second) where
  ok_iff ht p := by
    cases Outline.tree?_eq_some_iff.mp ht with
    | list start stop hitems =>
      rw [pair_eq_ok_iff]
      constructor
      · rintro ⟨-, ⟨a, b, rfl, ha, hb⟩, -⟩
        obtain ⟨x, ts, hx, hrest, rfl⟩ := List.forall₂_cons_left_iff.mp hitems
        obtain ⟨y, ts, hy, hnil, rfl⟩ := List.forall₂_cons_left_iff.mp hrest
        cases hnil
        exact ⟨x, y, rfl, (h.ok_iff hx _).mp ha, (h'.ok_iff hy _).mp hb⟩
      · rintro ⟨x, y, heq, hx, hy⟩
        cases heq
        obtain ⟨a, items, ha, hrest, rfl⟩ := List.forall₂_cons_right_iff.mp hitems
        obtain ⟨b, items, hb, hnil, rfl⟩ := List.forall₂_cons_right_iff.mp hrest
        cases hnil
        exact ⟨hopens, ⟨a, b, rfl, (h.ok_iff ha _).mpr hx, (h'.ok_iff hb _).mpr hy⟩, stop, rfl⟩
    | _ => simp [Reader.pair, MeansPair]
  whole hheld o p hread := by
    cases o with
    | list start items closing =>
      obtain ⟨-, ⟨a, b, rfl, ha, hb⟩, stop, rfl⟩ := pair_eq_ok_iff.mp hread
      have hinner : r.inner.held = false := by rw [Reading.held_inner, hheld]
      obtain ⟨x, hx⟩ := h.whole hinner ha
      obtain ⟨y, hy⟩ := h'.whole hinner hb
      exact ⟨.list [x, y], by simp [Outline.tree?, Outline.itemTrees?, hx, hy]⟩
    | _ => cases hread

/-! ### Variants -/

/-- A name means its variant, alone or as the one key of an object, with `null`. -/
def MeansVariant (variants : List (String × α)) (t : Tree) (a : α) : Prop :=
  ∃ name, variants.lookup name = some a ∧ (t = .text (some name) ∨ t = .object [(some name, .null)])

lemma findVariant_eq_ok_iff {variants : List (String × α)} {name : String} {place : Option Nat}
    {a : α} : Reader.findVariant variants name place = .ok a ↔ variants.lookup name = some a := by
  rw [Reader.findVariant]
  cases variants.lookup name <;> simp

/-- An object that stands for one variant has one member, whose key is the name and
whose value is `null`. -/
lemma variant_object_eq_ok_iff {variants : List (String × α)} {start : Nat}
    {members : List (Key × Outline)}
    {closing : Except Fault Nat} {a : α} :
    Reader.variant variants r (.object start members closing) = .ok a ↔
      r.Opens ∧
      (∃ key name from' upto, members = [(key, .null from' upto)] ∧ key.text = .ok name ∧
         variants.lookup name = some a) ∧
        ∃ stop, closing = .ok stop := by
  simp only [Reader.variant, bind_eq_ok_iff, Reading.enter_eq_ok_iff]
  constructor
  · rintro ⟨inner, ⟨hopens, rfl⟩, h⟩
    split_ifs at h with hsingle
    · cases h
    cases members with
    | nil => cases closing <;> cases h
    | cons member rest =>
      obtain ⟨key, value⟩ := member
      simp only [bind_eq_ok_iff, findVariant_eq_ok_iff] at h
      obtain ⟨name, hkey, b, hlookup, h⟩ := h
      cases value with
      | null from' upto =>
        cases rest with
        | nil =>
          cases closing with
          | ok stop =>
            cases h
            exact ⟨hopens, ⟨key, name, from', upto, rfl, hkey, hlookup⟩, stop, rfl⟩
          | error fault =>
            simp only at h
            split at h <;> cases h
        | cons next rest => cases h
      | _ => cases h
  · rintro ⟨hopens, ⟨key, name, from', upto, rfl, hkey, hlookup⟩, stop, rfl⟩
    refine ⟨r.inner, ⟨hopens, rfl⟩, ?_⟩
    rw [if_neg (by simp)]
    simp only [bind_eq_ok_iff, findVariant_eq_ok_iff]
    exact ⟨name, hkey, a, hlookup, rfl⟩

/-- A name that is given as a text. -/
lemma variant_text_eq_ok_iff {variants : List (String × α)} {start stop : Nat}
    {value : Except Failure String} {a : α} :
    Reader.variant variants r (.text start stop value) = .ok a ↔
      ∃ name, value = .ok name ∧ variants.lookup name = some a := by
  cases value with
  | error failure => simp [Reader.variant]
  | ok name => simp [Reader.variant, findVariant_eq_ok_iff]

lemma reads_variant (variants : List (String × α)) (hopens : r.Opens) :
    Reads r (Reader.variant variants) (MeansVariant variants) where
  ok_iff {o t} ht a := by
    cases Outline.tree?_eq_some_iff.mp ht with
    | text start stop value =>
      rw [variant_text_eq_ok_iff]
      simp [MeansVariant, toOption_eq_some_iff, and_comm]
    | @object start stop members ms hmembers =>
      rw [variant_object_eq_ok_iff]
      constructor
      · rintro ⟨-, ⟨key, name, from', upto, rfl, hkey, hlookup⟩, -⟩
        obtain ⟨⟨text, t⟩, ms, ⟨htext, ht⟩, hnil, rfl⟩ := List.forall₂_cons_left_iff.mp hmembers
        cases hnil
        cases ht
        rw [hkey]
        exact ⟨name, hlookup, .inr rfl⟩
      · rintro ⟨name, hlookup, heq | heq⟩
        · cases heq
        · cases heq
          obtain ⟨⟨key, value⟩, members, ⟨hkey, hvalue⟩, hnil, rfl⟩ :=
            List.forall₂_cons_right_iff.mp hmembers
          cases hnil
          cases Outline.tree?_eq_some_iff.mp hvalue with
          | null from' upto =>
            exact ⟨hopens, ⟨key, name, from', upto, rfl, toOption_eq_some_iff.mp hkey, hlookup⟩,
              stop, rfl⟩
    | _ => cases hheld : r.held <;> simp [Reader.variant, MeansVariant, hheld]
  whole hheld o a hread := by
    cases o with
    | text start stop value => exact ⟨_, rfl⟩
    | object start members closing =>
      obtain ⟨-, ⟨key, name, from', upto, rfl, hkey, hlookup⟩, stop, rfl⟩ :=
        variant_object_eq_ok_iff.mp hread
      exact ⟨_, rfl⟩
    | broken start fault =>
      rw [Reader.variant] at hread
      split at hread <;> try cases hread
      split_ifs at hread
    | _ => simp [Reader.variant, hheld] at hread

/-! ### Values of any type -/

lemma reads_check (hheld : r.held = false) :
    Reads r Outline.check fun t _ => t.Kept (r.depth - 1) where
  ok_iff ht _ := by
    rw [Outline.check_eq_ok_iff hheld, ht]
    simp
  whole _ o _ hread := by
    obtain ⟨t, ht, -⟩ := (Outline.check_eq_ok_iff hheld o).mp hread
    exact ⟨t, ht⟩

end Reads

/-! ### Whole texts -/

section Texts

variable {α : Type} {r : Reading} {read : Reader α} {means : Tree → α → Prop}

/-- A text is read as a value if and only if what the text says means the value. -/
theorem Reads.document (h : Reads r read means) (hheld : r.held = false) (text : Bytes) (a : α) :
    (Document.scan text .finished).read r read = .ok a ↔ ∃ t, Says text t ∧ means t a := by
  cases hscan : Document.scan text .finished with
  | mk o trailing =>
    rw [Document.read, bind_eq_ok_iff]
    constructor
    · rintro ⟨value, hread, htrailing⟩
      obtain ⟨t, ht, hmeans⟩ := (h.ok_iff_exists hheld o value).mp hread
      cases trailing with
      | some failure => cases htrailing
      | none =>
        cases htrailing
        exact ⟨t, Document.says_of_scan hscan ht, hmeans⟩
    · rintro ⟨t, hsaid, hmeans⟩
      obtain ⟨o', hscan', ho'⟩ := Document.scan_of_text hsaid
      cases hscan.symm.trans hscan'
      exact ⟨a, (h.ok_iff ho' a).mpr hmeans, rfl⟩

theorem readText_eq_ok_iff (h : Reads .whole read means) (text : Bytes) (a : α) :
    readText read text = .ok a ↔ ∃ t, Says text t ∧ means t a := h.document rfl text a

end Texts

end ClusterCost.Json
