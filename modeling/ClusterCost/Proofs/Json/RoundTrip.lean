import ClusterCost.Proofs.Json.Records
import ClusterCost.Proofs.Json.Writing
import Mathlib.Data.List.Nodup
import Mathlib.Data.Option.Basic

/-!
# Values that are written and read again

A reader restores what is written if it takes the written value for the value it was written for,
and takes nothing for a value that could not be written (`Restores`). Then both written forms of a
value are read as this value, and what was read from any text can be written and read again
(`Restores.roundTrips`). Readers of records restore what is written if each member is what its part
is read from (`Restores.record`).
-/

namespace ClusterCost.Json

/-! ### Numbers that a text can say -/

/-- No negative whole number in the tree has more than 64 bits. -/
inductive Tree.Ranged : Tree → Prop
  | null : Ranged .null
  | bool (b : Bool) : Ranged (.bool b)
  | number {n : Option Number} (h : ∀ k, n = some (.negative k) → k ≤ Nat.pow 2 63) :
      Ranged (.number n)
  | text (s : Option String) : Ranged (.text s)
  | list {items : List Tree} (h : ∀ t ∈ items, Ranged t) : Ranged (.list items)
  | object {members : List (Option String × Tree)} (h : ∀ m ∈ members, Ranged m.2) :
      Ranged (.object members)

/-- A number with a point, an exponent or too many digits is never kept as a whole number. -/
lemma Literal.le_of_value? {l : Literal} {k : Nat} (h : l.value? = .ok (.negative k)) :
    k ≤ Nat.pow 2 63 := by
  unfold Literal.value? at h
  generalize Literal.gather 0 l.whole = gathered at h
  obtain ⟨n, left⟩ := gathered
  dsimp only at h
  split at h
  · split_ifs at h with hsign hlarge
    · cases h
    · cases h
    · cases h
      simp only [Bool.or_eq_true, beq_iff_eq, decide_eq_true_eq, not_or] at hlarge
      exact Nat.le_of_not_lt hlarge.2
  · split at h
    · split at h <;> cases h
    · split at h
      · split at h <;> cases h
      · split_ifs at h
        cases h

mutual

/-- What a text says has no other numbers than those that are kept of it. -/
lemma Denotes.ranged {input rest : Bytes} {t : Tree} (h : Denotes input t rest) : t.Ranged := by
  cases h with
  | null rest => exact .null
  | yes rest => exact .bool true
  | no rest => exact .bool false
  | number h => exact .number fun k hk => Literal.le_of_value? (toOption_eq_some_iff.mp hk)
  | text h => exact .text _
  | list h => exact .list h.ranged
  | object h => exact .object h.ranged

lemma DenotesItems.ranged {input rest : Bytes} {ts : List Tree} (h : DenotesItems input ts rest) :
    ∀ t ∈ ts, t.Ranged := by
  cases h with
  | none h => simp
  | some hbefore ht hafter hmore => exact List.forall_mem_cons.mpr ⟨ht.ranged, hmore.ranged⟩

lemma DenotesMoreItems.ranged {input rest : Bytes} {ts : List Tree}
    (h : DenotesMoreItems input ts rest) : ∀ t ∈ ts, t.Ranged := by
  cases h with
  | none rest => simp
  | some hbefore ht hafter hmore => exact List.forall_mem_cons.mpr ⟨ht.ranged, hmore.ranged⟩

lemma DenotesMember.ranged {input rest : Bytes} {m : Option String × Tree}
    (h : DenotesMember input m rest) : m.2.Ranged := by
  cases h with
  | intro hkey hcolon hbefore ht => exact ht.ranged

lemma DenotesMembers.ranged {input rest : Bytes} {ms : List (Option String × Tree)}
    (h : DenotesMembers input ms rest) : ∀ m ∈ ms, m.2.Ranged := by
  cases h with
  | none h => simp
  | some hbefore hm hafter hmore => exact List.forall_mem_cons.mpr ⟨hm.ranged, hmore.ranged⟩

lemma DenotesMoreMembers.ranged {input rest : Bytes} {ms : List (Option String × Tree)}
    (h : DenotesMoreMembers input ms rest) : ∀ m ∈ ms, m.2.Ranged := by
  cases h with
  | none rest => simp
  | some hbefore hm hafter hmore => exact List.forall_mem_cons.mpr ⟨hm.ranged, hmore.ranged⟩

end

lemma Says.ranged {text : Bytes} {t : Tree} (h : Says text t) : t.Ranged := by
  obtain ⟨start, rest, -, ht, -⟩ := h
  exact ht.ranged

/-! ### Readers that restore what is written -/

section Restores

variable {α β : Type} {r : Reading}

/-- A reader takes what is written for a valid value as this value, and takes nothing for another
value than a valid one. -/
structure Restores (r : Reading) (read : Reader α) (write : α → Value) (valid : α → Prop)
    (means : Tree → α → Prop) : Prop where
  reads : Reads r read means
  exact : ∀ a, valid a → (write a).Exact
  means_tree : ∀ a, valid a → means (write a).tree a
  valid_of_means : ∀ {t : Tree} {a : α}, t.Ranged → means t a → valid a

lemma restores_text (r : Reading) :
    Restores r Reader.text Value.text (fun _ => True) MeansText where
  reads := reads_text r
  exact _ _ := trivial
  means_tree _ _ := rfl
  valid_of_means _ _ := trivial

lemma restores_bool (r : Reading) :
    Restores r Reader.bool Value.bool (fun _ => True) MeansBool where
  reads := reads_bool r
  exact _ _ := trivial
  means_tree _ _ := rfl
  valid_of_means _ _ := trivial

/-- The number has 64 bits, one of which is for the sign. -/
def Signed64 (n : Int) : Prop := -(Nat.pow 2 63 : Int) ≤ n ∧ n < (Nat.pow 2 63 : Int)

lemma signed64_zero : Signed64 0 := by
  constructor <;> decide

lemma Signed64.fits {n : Int} (h : Signed64 n) : Fits64 n := by
  have hlarge : (Nat.pow 2 63 : Int) ≤ (Literal.largest : Int) := by decide
  exact ⟨h.1, by have := h.2; omega⟩

lemma restores_integer (r : Reading) :
    Restores r Reader.integer Value.integer Signed64 MeansInteger where
  reads := reads_integer r
  exact _ h := h.fits
  means_tree n h := by
    cases n with
    | ofNat n => exact .natural (Int.ofNat_lt.mp h.2)
    | negSucc n => exact .negative (n + 1)
  valid_of_means ht h := by
    cases h with
    | natural hsmall => exact ⟨by omega, Int.ofNat_lt.mpr hsmall⟩
    | negative n =>
      cases ht with
      | number hrange =>
        have hn := hrange n rfl
        have hpos : 0 < Nat.pow 2 63 := by decide
        exact ⟨by omega, by omega⟩

/-- Names of variants are written as texts. -/
lemma restores_variant {variants : List (String × α)} {label : α → String} (hopens : r.Opens)
    (hlabel : ∀ a, variants.lookup (label a) = some a) :
    Restores r (Reader.variant variants) (fun a => .text (label a)) (fun _ => True)
      (MeansVariant variants) where
  reads := reads_variant variants hopens
  exact _ _ := trivial
  means_tree a _ := ⟨label a, hlabel a, .inl rfl⟩
  valid_of_means _ _ := trivial

section Parts

variable {read : Reader α} {write : α → Value} {valid : α → Prop} {means : Tree → α → Prop}

lemma Restores.list (h : Restores r.inner read write valid means) (hopens : r.Opens) :
    Restores r (Reader.list read) (fun as => .list (as.map write)) (fun as => ∀ a ∈ as, valid a)
      (MeansList means) where
  reads := h.reads.list hopens
  exact as hvalid := by
    rw [Value.Exact, Value.exactItems_iff]
    intro v hv
    obtain ⟨a, ha, rfl⟩ := List.mem_map.mp hv
    exact h.exact a (hvalid a ha)
  means_tree as hvalid := by
    refine ⟨as.map fun a => (write a).tree, ?_, ?_⟩
    · rw [Value.tree, Value.itemTrees_eq_map, List.map_map]
      rfl
    · rw [List.forall₂_map_left_iff, List.forall₂_same]
      intro a ha
      exact h.means_tree a (hvalid a ha)
  valid_of_means ht hmeans := by
    obtain ⟨ts, rfl, hitems⟩ := hmeans
    cases ht with
    | list hts =>
      intro a ha
      obtain ⟨t, ht, hmeans⟩ := Forall₂.exists_of_mem hitems.flip ha
      exact h.valid_of_means (hts t ht) hmeans

/-- Names with values are written as an object. -/
lemma Restores.members (h : Restores r.inner read write valid means) (hopens : r.Opens) :
    Restores r (Reader.members read) (fun as => .object (as.map fun a => (a.1, write a.2)))
      (fun as => ∀ a ∈ as, valid a.2)
      (MeansMembers means) where
  reads := h.reads.members hopens
  exact as hvalid := by
    rw [Value.Exact, Value.exactMembers_iff]
    intro m hm
    obtain ⟨a, ha, rfl⟩ := List.mem_map.mp hm
    exact h.exact a.2 (hvalid a ha)
  means_tree as hvalid := by
    refine ⟨as.map fun a => (some a.1, (write a.2).tree), ?_, ?_⟩
    · rw [Value.tree, Value.memberTrees_eq_map, List.map_map]
      rfl
    · rw [List.forall₂_map_left_iff, List.forall₂_same]
      intro a ha
      exact ⟨rfl, h.means_tree a.2 (hvalid a ha)⟩
  valid_of_means ht hmeans := by
    obtain ⟨ms, rfl, hmembers⟩ := hmeans
    cases ht with
    | object hms =>
      intro a ha
      obtain ⟨m, hm, -, hmeans⟩ := Forall₂.exists_of_mem hmembers.flip ha
      exact h.valid_of_means (hms m hm) hmeans

end Parts

/-! ### Records -/

/-- Members are laid over a record, one for each part, in the order of the parts. A part that is not
required may have none. -/
inductive Lays : List (Portion α) → List (String × Value) → α → α → Prop
  | nil (a : α) : Lays [] [] a a
  | put {p : Portion α} {ps : List (Portion α)} {v : Value} {ms : List (String × Value)} {a b c : α}
      (h : p.puts v.tree a b)
      (more : Lays ps ms b c) : Lays (p :: ps) ((p.name, v) :: ms) a c
  | skip {p : Portion α} {ps : List (Portion α)} {ms : List (String × Value)} {a c : α}
      (h : p.presence ≠ .required)
      (more : Lays ps ms a c) : Lays (p :: ps) ms a c

section Record

variable {parts : List (Portion α)} {members : List (String × Value)} {a c : α} {t : Tree}

lemma Lays.sublist (h : Lays parts members a c) :
    (members.map (·.1)).Sublist (parts.map (·.name)) := by
  induction h with
  | nil a => exact .slnil
  | put h more ih => exact ih.cons_cons _
  | skip h more ih => exact ih.cons _

lemma Lays.required (h : Lays parts members a c) :
    ∀ p ∈ parts, p.presence = .required → p.name ∈ members.map (·.1) := by
  induction h with
  | nil a => simp
  | put h more ih =>
    refine List.forall_mem_cons.mpr ⟨fun _ => List.mem_cons_self, ?_⟩
    intro q hq hrequired
    exact List.mem_cons_of_mem _ (ih q hq hrequired)
  | skip h more ih => exact List.forall_mem_cons.mpr ⟨fun hrequired => absurd hrequired h, ih⟩

/-- A part without a member has a name that no member has. -/
lemma Lays.not_mem {p : Portion α} (h : Lays parts members a c)
    (hname : p.name ∉ parts.map (·.name)) :
    some p.name ∉ (Value.memberTrees members).map (·.1) := by
  rw [Value.memberTrees_eq_map, List.map_map]
  intro hmem
  obtain ⟨m, hm, heq⟩ := List.mem_map.mp hmem
  apply hname
  apply h.sublist.subset
  rw [← Option.some.inj heq]
  exact List.mem_map_of_mem hm

lemma Lays.chain (h : Lays parts members a c) (hnames : (parts.map (·.name)).Nodup) :
    Chain parts (valuesIn (Value.memberTrees members) parts) a c := by
  induction h with
  | nil a => exact .nil a
  | @put p ps v ms a b c h more ih =>
    have hvalues : valuesIn ((some p.name, v.tree) :: Value.memberTrees ms) ([] ++ p :: ps) = _ :=
      valuesIn_cons_known hnames
    rw [List.nil_append] at hvalues
    rw [Value.memberTrees, hvalues]
    exact .put h (ih (List.nodup_cons.mp hnames).2)
  | @skip p ps ms a c h more ih =>
    obtain ⟨hname, hnames⟩ := List.nodup_cons.mp hnames
    have hvalues : valuesIn (Value.memberTrees ms) ([] ++ p :: ps) = _ :=
      valuesIn_append_cons (more.not_mem hname)
    rw [List.nil_append] at hvalues
    rw [hvalues]
    exact .keep (ih hnames)

/-- An object of the members means the record that they make. -/
theorem Lays.means (h : Lays parts members a c) (hnames : (parts.map (·.name)).Nodup) :
    MeansRecord parts a (Value.object members).tree c := by
  have hkeys : (Value.memberTrees members).map (·.1) = (members.map (·.1)).map some := by
    rw [Value.memberTrees_eq_map, List.map_map, List.map_map]
    rfl
  have honce : ((Value.memberTrees members).map (·.1)).Nodup := by
    rw [hkeys]
    exact (hnames.sublist h.sublist).map (Option.some_injective _)
  refine ⟨_, .object ?_ ?_ ?_, h.chain hnames⟩
  · rw [Value.memberTrees_eq_map]
    intro m hm
    obtain ⟨member, -, rfl⟩ := List.mem_map.mp hm
    exact Option.some_ne_none _
  · intro p hp
    exact List.nodup_iff_count_le_one.mp honce _
  · intro p hp hrequired
    rw [hkeys]
    exact List.mem_map_of_mem (h.required p hp hrequired)

/-- What holds of the blank record, and is kept by each part, holds of all records that are read. -/
lemma MeansRecord.invariant {P : α → Prop} {blank : α} (hblank : P blank)
    (hparts : ∀ p ∈ parts, ∀ t a b, t.Ranged → P a → p.puts t a b → P b) (ht : t.Ranged)
    (h : MeansRecord parts blank t a) : P a := by
  obtain ⟨values, harranges, hchain⟩ := h
  have hvalues : ∀ u, some u ∈ values → u.Ranged := by
    intro u hu
    cases harranges with
    | @object ms hkeys honce hrequired =>
      cases ht with
      | object hms =>
        obtain ⟨p, -, hlookup⟩ := List.mem_map.mp hu
        obtain ⟨before, after, rfl, -⟩ := List.lookup_eq_some_iff.mp hlookup
        exact hms (some p.name, u) (List.mem_append_right _ List.mem_cons_self)
    | list hlength hrest =>
      cases ht with
      | list hts => exact hts u (mem_of_valuesOf hu)
  clear harranges
  induction hchain with
  | nil a => exact hblank
  | @put p ps u vs a b c hput more ih =>
    obtain ⟨hp, hps⟩ := List.forall_mem_cons.mp hparts
    exact ih (hp u a b (hvalues u List.mem_cons_self) hblank hput) hps fun w hw =>
      hvalues w (List.mem_cons_of_mem _ hw)
  | keep more ih =>
    exact ih hblank (List.forall_mem_cons.mp hparts).2 fun w hw =>
      hvalues w (List.mem_cons_of_mem _ hw)

/-- A record is restored if what is written for it has a member for each part, from
which the part is read. -/
theorem Restores.record (rec : Record α) {write : α → Value} {valid : α → Prop}
    (hslots : List.Forall₂ (Slot.Fills r.inner) rec.slots parts)
    (hcomm : parts.Pairwise Portion.Commutes)
    (hnames : (parts.map (·.name)).Nodup) (hopens : r.Opens)
    (hwrite : ∀ a, valid a →
       ∃ members, write a = .object members ∧ (∀ m ∈ members, m.2.Exact) ∧
         Lays parts members rec.blank a)
    (hblank : valid rec.blank)
    (hparts : ∀ p ∈ parts, ∀ t a b, t.Ranged → valid a → p.puts t a b → valid b) :
    Restores r rec.read write valid (MeansRecord parts rec.blank) where
  reads := reads_record rec hslots hcomm hnames hopens
  exact a hvalid := by
    obtain ⟨members, heq, hexact, -⟩ := hwrite a hvalid
    rw [heq, Value.Exact, Value.exactMembers_iff]
    exact hexact
  means_tree a hvalid := by
    obtain ⟨members, heq, -, hlays⟩ := hwrite a hvalid
    rw [heq]
    exact hlays.means hnames
  valid_of_means ht hmeans := hmeans.invariant hblank hparts ht

/-- A record whose values are all valid. -/
theorem restores_record (rec : Record α) {write : α → Value}
    (hslots : List.Forall₂ (Slot.Fills r.inner) rec.slots parts)
    (hcomm : parts.Pairwise Portion.Commutes) (hnames : (parts.map (·.name)).Nodup)
    (hopens : r.Opens)
    (hwrite : ∀ a, ∃ members, write a = .object members ∧ (∀ m ∈ members, m.2.Exact) ∧
      Lays parts members rec.blank a) :
    Restores r rec.read write (fun _ => True) (MeansRecord parts rec.blank) := by
  refine .record rec hslots hcomm hnames hopens (fun a _ => hwrite a) trivial ?_
  intro p hp t a b ht ha hput
  trivial

end Record

/-! ### Texts -/

/-- The compact form of the value that a text is read as. -/
def rewrite (read : Reader α) (write : α → Value) (text : Bytes) : Except Failure Bytes :=
  (readText read text).map fun a => (write a).compact

/-- What is written for a valid value is read as this value, in both written forms. Any text that is
read at all is read as a valid value; to write this value and to read it again gives it back. So
what is written is a normal form, which to be read and written again leaves as it is. -/
structure RoundTrips (read : Reader α) (write : α → Value) (valid : α → Prop) : Prop where
  compact : ∀ a, valid a → readText read (write a).compact = .ok a
  pretty : ∀ a, valid a → readText read (write a).pretty = .ok a
  valid : ∀ text a, readText read text = .ok a → valid a
  again : ∀ text a, readText read text = .ok a →
    readText read (write a).compact = .ok a ∧ readText read (write a).pretty = .ok a
  normal : ∀ text out, rewrite read write text = .ok out → rewrite read write out = .ok out

theorem Restores.roundTrips {read : Reader α} {write : α → Value} {valid : α → Prop}
    {means : Tree → α → Prop} (h : Restores .whole read write valid means) :
    RoundTrips read write valid := by
  have hcompact : ∀ a, valid a → readText read (write a).compact = .ok a := by
    intro a ha
    exact (readText_eq_ok_iff h.reads _ a).mpr ⟨_, Value.text_compact_of_exact (h.exact a ha),
      h.means_tree a ha⟩
  have hpretty : ∀ a, valid a → readText read (write a).pretty = .ok a := by
    intro a ha
    exact (readText_eq_ok_iff h.reads _ a).mpr ⟨_, Value.text_pretty_of_exact (h.exact a ha),
      h.means_tree a ha⟩
  have hvalid : ∀ text a, readText read text = .ok a → valid a := by
    intro text a hread
    obtain ⟨t, hsays, hmeans⟩ := (readText_eq_ok_iff h.reads text a).mp hread
    exact h.valid_of_means hsays.ranged hmeans
  refine ⟨hcompact, hpretty, hvalid, ?_, ?_⟩
  · intro text a hread
    have ha := hvalid text a hread
    exact ⟨hcompact a ha, hpretty a ha⟩
  · intro text out hout
    obtain ⟨a, hread, rfl⟩ := map_eq_ok_iff.mp hout
    rw [rewrite, hcompact a (hvalid text a hread)]
    rfl

end Restores

end ClusterCost.Json
