import ClusterCost.Json.Record
import ClusterCost.Proofs.Json.Readers

/-!
# What records are read from

A record is read from an object that gives each of its names at most once, or from the list of its
values. What it is read as is the blank record with the values put in the order of the slots
(`Chain`), in whatever order an object has them: the puts of different slots commute. Members of an
object without a slot do not matter (`reads_record`).
-/

namespace ClusterCost.Json

/-- What a slot of a record makes of a tree. -/
structure Portion (α : Type) where
  name : String
  presence : Presence
  puts : Tree → α → α → Prop

namespace Portion

variable {α β : Type}

/-- A part whose value is set. -/
def of (name : String) (presence : Presence) (means : Tree → β → Prop) (set : β → α → α) :
    Portion α :=
  ⟨name, presence, fun t a b => ∃ x, means t x ∧ set x a = b⟩

/-- It does not matter which of two parts is put first. -/
def Commutes (p q : Portion α) : Prop :=
  ∀ t u a c, (∃ b, p.puts t a b ∧ q.puts u b c) ↔ ∃ b, q.puts u a b ∧ p.puts t b c

lemma commutes_of {γ : Type} {name other : String} {presence presence' : Presence}
    {means : Tree → β → Prop} {means' : Tree → γ → Prop} {set : β → α → α} {set' : γ → α → α}
    (h : ∀ x y a, set' y (set x a) = set x (set' y a)) :
    Commutes (of name presence means set) (of other presence' means' set') := by
  intro t u a c
  constructor
  · rintro ⟨b, ⟨x, hx, rfl⟩, y, hy, rfl⟩
    exact ⟨_, ⟨y, hy, rfl⟩, x, hx, (h x y a).symm⟩
  · rintro ⟨b, ⟨y, hy, rfl⟩, x, hx, rfl⟩
    exact ⟨_, ⟨x, hx, rfl⟩, y, hy, h x y a⟩

end Portion

section Records

variable {α β : Type} {r : Reading}

/-! ### Slots -/

/-- A slot does what the part says. -/
structure Slot.Fills (r : Reading) (slot : Slot α) (part : Portion α) : Prop where
  name : slot.name = part.name
  presence : slot.presence = part.presence
  ok_iff : ∀ {o : Outline} {t : Tree}, o.tree? = some t →
    ∀ a b, slot.put r o a = .ok b ↔ part.puts t a b
  whole : r.held = false → ∀ {o : Outline} {a b : α}, slot.put r o a = .ok b → ∃ t, o.tree? = some t

lemma Reads.fills {read : Reader β} {means : Tree → β → Prop} (h : Reads r read means)
    (name : String) (presence : Presence) (set : β → α → α) :
    Slot.Fills r (.of name presence read set) (.of name presence means set) where
  name := rfl
  presence := rfl
  ok_iff ht a b := (h.map (set · a)).ok_iff ht b
  whole hheld _ a _ hput := (h.map (set · a)).whole hheld hput

/-! ### Values put in the order of the parts -/

/-- The values of the parts, some of which may be left out, are put one after another. -/
inductive Chain : List (Portion α) → List (Option Tree) → α → α → Prop
  | nil (a : α) : Chain [] [] a a
  | put {p : Portion α} {ps : List (Portion α)} {t : Tree} {vs : List (Option Tree)} {a b c : α}
      (h : p.puts t a b)
      (more : Chain ps vs b c) : Chain (p :: ps) (some t :: vs) a c
  | keep {p : Portion α} {ps : List (Portion α)} {vs : List (Option Tree)} {a c : α}
      (more : Chain ps vs a c) :
      Chain (p :: ps) (none :: vs) a c

section Chain

variable {p : Portion α} {ps qs : List (Portion α)} {v : Option Tree} {t : Tree}
  {vs ws : List (Option Tree)} {a c : α}

lemma chain_nil_iff : Chain [] [] a c ↔ a = c := by
  constructor
  · rintro ⟨⟩
    rfl
  · rintro rfl
    exact .nil a

lemma chain_some_iff :
    Chain (p :: ps) (some t :: vs) a c ↔ ∃ b, p.puts t a b ∧ Chain ps vs b c := by
  constructor
  · rintro ⟨⟩
    exact ⟨_, ‹_›, ‹_›⟩
  · rintro ⟨b, h, more⟩
    exact .put h more

lemma chain_none_iff : Chain (p :: ps) (none :: vs) a c ↔ Chain ps vs a c := by
  constructor
  · rintro ⟨⟩
    assumption
  · exact .keep

lemma chain_append_iff (hlength : ps.length = vs.length) :
    Chain (ps ++ qs) (vs ++ ws) a c ↔ ∃ b, Chain ps vs a b ∧ Chain qs ws b c := by
  induction ps generalizing vs a with
  | nil =>
    obtain rfl := List.eq_nil_of_length_eq_zero hlength.symm
    simp [chain_nil_iff]
  | cons p ps ih =>
    obtain ⟨v, vs, rfl⟩ := List.exists_cons_of_length_eq_add_one hlength.symm
    have hrest : ps.length = vs.length := by simpa using hlength
    cases v with
    | none => simp only [List.cons_append, chain_none_iff, ih hrest]
    | some t =>
      simp only [List.cons_append, chain_some_iff, ih hrest]
      constructor
      · rintro ⟨b, hb, d, hd, hc⟩
        exact ⟨d, ⟨b, hb, hd⟩, hc⟩
      · rintro ⟨d, ⟨b, hb, hd⟩, hc⟩
        exact ⟨b, hb, d, hd, hc⟩

/-- A part that commutes with others may be put before or after them. -/
lemma puts_chain_comm (h : ∀ q ∈ ps, q.Commutes p) :
    (∃ b, p.puts t a b ∧ Chain ps vs b c) ↔ ∃ b, Chain ps vs a b ∧ p.puts t b c := by
  induction ps generalizing vs a with
  | nil =>
    cases vs with
    | nil => simp [chain_nil_iff]
    | cons v vs =>
      constructor
      · rintro ⟨b, -, ⟨⟩⟩
      · rintro ⟨b, ⟨⟩, -⟩
  | cons q ps ih =>
    obtain ⟨hq, hps⟩ := List.forall_mem_cons.mp h
    match vs with
    | [] =>
      constructor
      · rintro ⟨b, -, ⟨⟩⟩
      · rintro ⟨b, ⟨⟩, -⟩
    | none :: vs => simp only [chain_none_iff, ih hps]
    | some u :: vs =>
      simp only [chain_some_iff]
      constructor
      · rintro ⟨b, hp, d, hq', hchain⟩
        obtain ⟨b', hq', hp⟩ := (hq u t a d).mpr ⟨b, hp, hq'⟩
        obtain ⟨d', hchain, hp⟩ := (ih hps).mp ⟨d, hp, hchain⟩
        exact ⟨d', ⟨b', hq', hchain⟩, hp⟩
      · rintro ⟨d', ⟨b', hq', hchain⟩, hp⟩
        obtain ⟨d, hp, hchain⟩ := (ih hps).mpr ⟨d', hchain, hp⟩
        obtain ⟨b, hp, hq'⟩ := (hq u t a d).mp ⟨b', hq', hp⟩
        exact ⟨b, hp, d, hq', hchain⟩

/-- The value of one part may be put before all the others. -/
lemma chain_insert_iff (hlength : ps.length = vs.length) (h : ∀ q ∈ ps, q.Commutes p) :
    Chain (ps ++ p :: qs) (vs ++ some t :: ws) a c ↔
      ∃ b, p.puts t a b ∧ Chain (ps ++ p :: qs) (vs ++ none :: ws) b c := by
  simp only [chain_append_iff hlength, chain_some_iff, chain_none_iff]
  constructor
  · rintro ⟨d, hd, b, hb, hc⟩
    obtain ⟨b', hb', hd'⟩ := (puts_chain_comm h).mpr ⟨d, hd, hb⟩
    exact ⟨b', hb', b, hd', hc⟩
  · rintro ⟨b', hb', b, hd', hc⟩
    obtain ⟨d, hd, hb⟩ := (puts_chain_comm h).mp ⟨b', hb', hd'⟩
    exact ⟨d, hd, b, hb, hc⟩

end Chain

/-! ### The values of an object or a list -/

/-- The items of a list, one for each part while there are any. -/
def valuesOf : List (Portion α) → List Tree → List (Option Tree)
  | [], _ => []
  | _ :: ps, [] => none :: valuesOf ps []
  | _ :: ps, t :: ts => some t :: valuesOf ps ts

lemma mem_of_valuesOf {parts : List (Portion α)} {ts : List Tree} {t : Tree}
    (h : some t ∈ valuesOf parts ts) : t ∈ ts := by
  induction parts generalizing ts with
  | nil => cases h
  | cons p ps ih =>
    cases ts with
    | nil => exact absurd (ih ((List.mem_cons.mp h).resolve_left (by simp))) List.not_mem_nil
    | cons u ts =>
      rcases List.mem_cons.mp h with heq | h
      · exact Option.some.inj heq ▸ List.mem_cons_self
      · exact List.mem_cons_of_mem _ (ih h)

/-- A tree gives these values to the parts of a record. -/
inductive Arranges (parts : List (Portion α)) : Tree → List (Option Tree) → Prop
  /-- The keys can be decoded, no part is given twice, and the required ones are given.
  Other members may be there. -/
  | object {ms : List (Option String × Tree)} (hkeys : ∀ m ∈ ms, m.1 ≠ none)
      (honce : ∀ p ∈ parts, (ms.map (·.1)).count (some p.name) ≤ 1)
      (hrequired : ∀ p ∈ parts, p.presence = .required → some p.name ∈ ms.map (·.1)) :
      Arranges parts (.object ms) (parts.map fun p => ms.lookup (some p.name))
  /-- At the end of the list those may be left out that have a default. -/
  | list {ts : List Tree} (hlength : ts.length ≤ parts.length)
      (hrest : ∀ p ∈ parts.drop ts.length, p.presence = .defaulted) :
      Arranges parts (.list ts) (valuesOf parts ts)

/-- A tree means the blank record with the values of its parts. -/
def MeansRecord (parts : List (Portion α)) (blank : α) (t : Tree) (a : α) : Prop :=
  ∃ values, Arranges parts t values ∧ Chain parts values blank a

/-! ### Reading objects -/

section Object

variable {rec : Record α} {parts : List (Portion α)} {name : String}

lemma find_slot_none (hslots : List.Forall₂ (Slot.Fills r) rec.slots parts) :
    rec.slots.find? (·.name == name) = none ↔ ∀ p ∈ parts, p.name ≠ name := by
  generalize rec.slots = slots at hslots
  induction hslots with
  | nil => simp
  | cons hfills hrest ih =>
    simp only [List.find?_eq_none, List.forall_mem_cons, hfills.name, beq_iff_eq] at ih ⊢
    rw [ih]

lemma find_slot_some (hslots : List.Forall₂ (Slot.Fills r) rec.slots parts) {slot : Slot α}
    (h : rec.slots.find? (·.name == name) = some slot) :
    ∃ ps p qs, parts = ps ++ p :: qs ∧ Slot.Fills r slot p ∧ p.name = name := by
  generalize rec.slots = slots at hslots h
  induction hslots with
  | nil => cases h
  | @cons first p slots parts hfills hrest ih =>
    rw [List.find?_cons] at h
    split at h
    · rename_i hname
      cases h
      exact ⟨[], p, parts, rfl, hfills, by rw [← hfills.name]; simpa using hname⟩
    · obtain ⟨ps, q, qs, rfl, hq, hname⟩ := ih h
      exact ⟨p :: ps, q, qs, rfl, hq, hname⟩

lemma putMember_eq_ok_iff {d d' : Record.Draft α} {member : Key × Outline} :
    rec.putMember r d member = .ok d' ↔ ∃ name, member.1.text = .ok name ∧
      ((∃ slot, rec.slots.find? (·.name == name) = some slot ∧ name ∉ d.named ∧
          ∃ b, slot.put r member.2 d.value = .ok b ∧ d' = ⟨b, name :: d.named⟩) ∨
        rec.slots.find? (·.name == name) = none ∧ (r.held = true ∨ member.2.skipFailure = none) ∧
        d' = d) := by
  obtain ⟨key, value⟩ := member
  simp only [Record.putMember, bind_eq_ok_iff]
  refine exists_congr fun name => and_congr_right fun hkey => ?_
  cases hfind : rec.slots.find? (·.name == name) with
  | some slot =>
    simp only [List.contains_iff_mem, reduceCtorEq, false_and, or_false]
    constructor
    · intro h
      split_ifs at h with hnamed
      · cases h
      · obtain ⟨b, hb, heq⟩ := bind_eq_ok_iff.mp h
        cases heq
        exact ⟨slot, rfl, hnamed, b, hb, rfl⟩
    · rintro ⟨_, ⟨⟩, hnamed, b, hb, rfl⟩
      rw [if_neg hnamed]
      exact bind_eq_ok_iff.mpr ⟨b, hb, rfl⟩
  | none =>
    simp only [reduceCtorEq, false_and, exists_false, true_and, false_or]
    constructor
    · intro h
      split at h
      · cases h
      · rename_i hskip
        cases h
        refine ⟨?_, rfl⟩
        split_ifs at hskip with hheld
        · exact .inl hheld
        · exact .inr hskip
    · rintro ⟨hskip, rfl⟩
      have hnone : (if r.held = true then none else value.skipFailure) = none := by
        rcases hskip with hheld | hskip
        · exact if_pos hheld
        · rw [hskip, ite_self]
      rw [hnone]
      rfl

/-- The values that the members of an object give to parts. -/
def valuesIn (ms : List (Option String × Tree)) (parts : List (Portion α)) : List (Option Tree) :=
  parts.map fun p => ms.lookup (some p.name)

/-- The members can be decoded, and give each part at most once, and not if it has been
named before. -/
def Given (parts : List (Portion α)) (ms : List (Option String × Tree)) (named : List String) :
    Prop :=
  (∀ m ∈ ms, m.1 ≠ none) ∧
    ∀ p ∈ parts, (ms.map (·.1)).count (some p.name) ≤ 1 ∧
      (p.name ∈ named → some p.name ∉ ms.map (·.1))

section Given

variable {ms : List (Option String × Tree)} {named : List String} {t : Tree} {a c : α}

lemma given_cons_unknown (h : ∀ p ∈ parts, p.name ≠ name) :
    Given parts ((some name, t) :: ms) named ↔ Given parts ms named := by
  have hkey : ∀ p ∈ parts, some name ≠ some p.name :=
    fun p hp heq => h p hp (Option.some.inj heq).symm
  simp only [Given, List.forall_mem_cons, ne_eq, reduceCtorEq, not_false_eq_true, true_and,
    List.map_cons]
  refine and_congr_right fun _ => forall₂_congr fun p hp => ?_
  rw [List.count_cons_of_ne (hkey p hp), List.mem_cons, or_iff_right (hkey p hp).symm]

lemma given_cons_known {p : Portion α} (hp : p ∈ parts) :
    Given parts ((some p.name, t) :: ms) named ↔
      p.name ∉ named ∧ Given parts ms (p.name :: named) := by
  simp only [Given, List.forall_mem_cons, ne_eq, reduceCtorEq, not_false_eq_true, true_and,
    List.map_cons]
  simp only [List.mem_cons, not_or]
  constructor
  · rintro ⟨hkeys, hparts⟩
    obtain ⟨hcount, hnamed⟩ := hparts p hp
    have hmissing : some p.name ∉ ms.map (·.1) := by
      rw [List.count_cons_self] at hcount
      exact List.count_eq_zero.mp (by omega)
    refine ⟨fun h => (hnamed h).1 rfl, hkeys, fun q hq => ?_⟩
    obtain ⟨hq₁, hq₂⟩ := hparts q hq
    refine ⟨le_trans (List.count_le_count_cons) hq₁, ?_⟩
    rintro (heq | hmem)
    · rwa [heq]
    · exact (hq₂ hmem).2
  · rintro ⟨hnew, hkeys, hparts⟩
    refine ⟨hkeys, fun q hq => ?_⟩
    obtain ⟨hcount, hnamed⟩ := hparts q hq
    by_cases heq : q.name = p.name
    · rw [heq] at hnamed ⊢
      rw [List.count_cons_self, List.count_eq_zero.mpr (hnamed (.inl rfl))]
      exact ⟨le_rfl, fun h => absurd h hnew⟩
    · have hkey : some p.name ≠ some q.name := fun h => heq (Option.some.inj h).symm
      rw [List.count_cons_of_ne hkey]
      exact ⟨hcount, fun h => ⟨hkey.symm, hnamed (.inr h)⟩⟩

lemma valuesIn_cons_unknown (h : ∀ p ∈ parts, p.name ≠ name) :
    valuesIn ((some name, t) :: ms) parts = valuesIn ms parts := by
  refine List.map_congr_left fun p hp => ?_
  rw [List.lookup_cons, beq_eq_false_iff_ne.mpr fun heq => h p hp (Option.some.inj heq)]

lemma valuesIn_cons_known {p : Portion α} {ps qs : List (Portion α)}
    (hnames : ((ps ++ p :: qs).map (·.name)).Nodup) :
    valuesIn ((some p.name, t) :: ms) (ps ++ p :: qs) =
      valuesIn ms ps ++ some t :: valuesIn ms qs := by
  rw [List.map_append, List.map_cons, List.perm_middle.nodup_iff, List.nodup_cons,
    List.mem_append] at hnames
  have hps : ∀ q ∈ ps, q.name ≠ p.name :=
    fun q hq heq => hnames.1 (.inl (List.mem_map.mpr ⟨q, hq, heq⟩))
  have hqs : ∀ q ∈ qs, q.name ≠ p.name :=
    fun q hq heq => hnames.1 (.inr (List.mem_map.mpr ⟨q, hq, heq⟩))
  rw [valuesIn, List.map_append, List.map_cons, List.lookup_cons_self]
  exact congrArg₂ (· ++ some t :: ·) (valuesIn_cons_unknown hps) (valuesIn_cons_unknown hqs)

lemma valuesIn_append_cons {p : Portion α} {ps qs : List (Portion α)}
    (h : some p.name ∉ ms.map (·.1)) :
    valuesIn ms (ps ++ p :: qs) = valuesIn ms ps ++ none :: valuesIn ms qs := by
  have hnone : ms.lookup (some p.name) = none := by
    rw [List.lookup_eq_none_iff]
    rintro m hm
    rw [bne_iff_ne]
    exact fun heq => h (List.mem_map.mpr ⟨m, hm, heq.symm⟩)
  rw [valuesIn, List.map_append, List.map_cons, hnone]
  rfl

lemma chain_nones_iff (ps : List (Portion α)) : Chain ps (valuesIn [] ps) a c ↔ a = c := by
  induction ps with
  | nil => exact chain_nil_iff
  | cons p ps ih => exact chain_none_iff.trans ih

/-- Members lead from a draft to a value: they can be put into it, and it has this value then. -/
def Leads (parts : List (Portion α)) (ms : List (Option String × Tree)) (d : Record.Draft α)
    (a : α) : Prop :=
  Given parts ms d.named ∧ Chain parts (valuesIn ms parts) d.value a

variable {d : Record.Draft α}

lemma leads_nil_iff : Leads parts [] d a ↔ d.value = a := by
  rw [Leads, chain_nones_iff]
  refine and_iff_right ⟨fun _ hm => absurd hm List.not_mem_nil,
    fun _ _ => ⟨Nat.zero_le _, fun _ => List.not_mem_nil⟩⟩

lemma not_leads_none : ¬ Leads parts ((none, t) :: ms) d a := by
  rintro ⟨⟨hkeys, -⟩, -⟩
  exact hkeys _ List.mem_cons_self rfl

lemma leads_unknown_iff (h : ∀ p ∈ parts, p.name ≠ name) :
    Leads parts ((some name, t) :: ms) d a ↔ Leads parts ms d a := by
  rw [Leads, Leads, given_cons_unknown h, valuesIn_cons_unknown h]

/-- The first member may be put at once, since its part commutes with those that come before it. -/
lemma leads_known_iff {p : Portion α} {ps qs : List (Portion α)}
    (hcomm : (ps ++ p :: qs).Pairwise Portion.Commutes)
    (hnames : ((ps ++ p :: qs).map (·.name)).Nodup) :
    Leads (ps ++ p :: qs) ((some p.name, t) :: ms) d a ↔
      p.name ∉ d.named ∧
      ∃ b, p.puts t d.value b ∧ Leads (ps ++ p :: qs) ms ⟨b, p.name :: d.named⟩ a := by
  have hp : p ∈ ps ++ p :: qs := List.mem_append_right _ List.mem_cons_self
  have hbefore : ∀ q ∈ ps, q.Commutes p :=
    fun q hq => (List.pairwise_append.mp hcomm).2.2 q hq p List.mem_cons_self
  have hmissing : Given (ps ++ p :: qs) ms (p.name :: d.named) → some p.name ∉ ms.map (·.1) :=
    fun hgiven => (hgiven.2 p hp).2 List.mem_cons_self
  simp only [Leads]
  rw [given_cons_known hp, valuesIn_cons_known hnames,
    chain_insert_iff (by simp [valuesIn]) hbefore]
  constructor
  · rintro ⟨⟨hnew, hgiven⟩, b, hput, hchain⟩
    refine ⟨hnew, b, hput, hgiven, ?_⟩
    rwa [valuesIn_append_cons (hmissing hgiven)]
  · rintro ⟨hnew, b, hput, hgiven, hchain⟩
    refine ⟨⟨hnew, hgiven⟩, b, hput, ?_⟩
    rwa [valuesIn_append_cons (hmissing hgiven)] at hchain

end Given

/-- What putting one member does to where a draft leads. -/
lemma leads_putMember_iff (hslots : List.Forall₂ (Slot.Fills r) rec.slots parts)
    (hcomm : parts.Pairwise Portion.Commutes)
    (hnames : (parts.map (·.name)).Nodup) {key : Key} {o : Outline} {k : Option String} {t : Tree}
    (hkey : key.text.toOption = k)
    (ho : o.tree? = some t) {ms : List (Option String × Tree)} {d : Record.Draft α} {a : α} :
    (∃ d', rec.putMember r d (key, o) = .ok d' ∧ Leads parts ms d' a) ↔
      Leads parts ((k, t) :: ms) d a := by
  simp only [putMember_eq_ok_iff]
  cases k with
  | none =>
    refine iff_of_false ?_ not_leads_none
    rintro ⟨d', ⟨name, hname, -⟩, -⟩
    rw [hname] at hkey
    cases hkey
  | some name =>
    rw [toOption_eq_some_iff] at hkey
    cases hfind : rec.slots.find? (·.name == name) with
    | none =>
      rw [leads_unknown_iff ((find_slot_none hslots).mp hfind)]
      have hskip := (Outline.skipFailure_eq_none_iff o).mpr ⟨t, ho⟩
      constructor
      · rintro ⟨d', ⟨_, heq, ⟨slot, hslot, -⟩ | ⟨-, -, rfl⟩⟩, h⟩
        · cases hkey.symm.trans heq
          cases hfind.symm.trans hslot
        · exact h
      · exact fun h => ⟨d, ⟨name, hkey, .inr ⟨hfind, .inr hskip, rfl⟩⟩, h⟩
    | some slot =>
      obtain ⟨ps, p, qs, rfl, hfills, rfl⟩ := find_slot_some hslots hfind
      rw [leads_known_iff hcomm hnames]
      simp only [hkey]
      constructor
      · rintro ⟨d', ⟨_, ⟨⟩, ⟨_, hslot, hnew, b, hput, rfl⟩ | ⟨hslot, -⟩⟩, hleads⟩
        · cases hfind.symm.trans hslot
          exact ⟨hnew, b, (hfills.ok_iff ho _ _).mp hput, hleads⟩
        · cases hfind.symm.trans hslot
      · rintro ⟨hnew, b, hput, hleads⟩
        exact ⟨_, ⟨p.name, rfl, .inl ⟨slot, hfind, hnew, b, (hfills.ok_iff ho _ _).mpr hput, rfl⟩⟩,
          hleads⟩

/-- A record is put together from members that can be decoded and name each of its
parts at most once. -/
lemma foldlM_putMember_iff (hslots : List.Forall₂ (Slot.Fills r) rec.slots parts)
    (hcomm : parts.Pairwise Portion.Commutes)
    (hnames : (parts.map (·.name)).Nodup) {members : List (Key × Outline)}
    {ms : List (Option String × Tree)}
    (hmembers :
       List.Forall₂ (fun member m => member.1.text.toOption = m.1 ∧ member.2.tree? = some m.2)
         members ms)
    (d : Record.Draft α) (a : α) :
    (∃ named, members.foldlM (rec.putMember r) d = .ok ⟨a, named⟩) ↔ Leads parts ms d a := by
  induction hmembers generalizing d with
  | nil =>
    rw [leads_nil_iff]
    constructor
    · rintro ⟨named, h⟩
      cases h
      rfl
    · rintro rfl
      exact ⟨d.named, rfl⟩
  | @cons member m members ms hmember hrest ih =>
    obtain ⟨hkey, ho⟩ := hmember
    rw [← leads_putMember_iff hslots hcomm hnames hkey ho]
    simp only [List.foldlM_cons, bind_eq_ok_iff, ← ih]
    constructor
    · rintro ⟨named, d', hput, h⟩
      exact ⟨d', hput, named, h⟩
    · rintro ⟨d', hput, named, h⟩
      exact ⟨named, d', hput, h⟩

/-- The names of the parts that have been put. -/
lemma mem_named_iff (hslots : List.Forall₂ (Slot.Fills r) rec.slots parts)
    {members : List (Key × Outline)} {d d' : Record.Draft α}
    (h : members.foldlM (rec.putMember r) d = .ok d') {p : Portion α} (hp : p ∈ parts) :
    p.name ∈ d'.named ↔ p.name ∈ d.named ∨ some p.name ∈ members.map (·.1.text.toOption) := by
  induction members generalizing d with
  | nil =>
    cases h
    simp
  | cons member members ih =>
    rw [List.foldlM_cons, bind_eq_ok_iff] at h
    obtain ⟨next, hput, h⟩ := h
    obtain ⟨name, hkey, ⟨slot, hfind, hnew, b, hput, rfl⟩ | ⟨hfind, hskip, rfl⟩⟩ :=
      putMember_eq_ok_iff.mp hput
    · rw [ih h, List.mem_cons, List.map_cons, List.mem_cons, hkey,
        or_comm (a := p.name = name), or_assoc]
      simp [Except.toOption]
    · have hne := (find_slot_none hslots).mp hfind p hp
      rw [ih h, List.map_cons, List.mem_cons, hkey]
      simp [Except.toOption, hne]

/-- Members that were taken have no fault. -/
lemma tree?_of_putMember (hslots : List.Forall₂ (Slot.Fills r) rec.slots parts)
    (hheld : r.held = false) {members : List (Key × Outline)} {d d' : Record.Draft α}
    (h : members.foldlM (rec.putMember r) d = .ok d') : ∀ m ∈ members, ∃ t, m.2.tree? = some t := by
  induction members generalizing d with
  | nil => exact fun _ hm => absurd hm List.not_mem_nil
  | cons member members ih =>
    rw [List.foldlM_cons, bind_eq_ok_iff] at h
    obtain ⟨next, hmember, h⟩ := h
    refine List.forall_mem_cons.mpr ⟨?_, ih h⟩
    obtain ⟨name, hkey, ⟨slot, hfind, hnew, b, hput, rfl⟩ | ⟨hfind, hskip, rfl⟩⟩ :=
      putMember_eq_ok_iff.mp hmember
    · obtain ⟨ps, p, qs, rfl, hfills, -⟩ := find_slot_some hslots hfind
      exact hfills.whole hheld hput
    · refine (Outline.skipFailure_eq_none_iff member.2).mp (hskip.resolve_left ?_)
      rw [hheld]
      exact Bool.false_ne_true

lemma missing?_eq_none_iff (hslots : List.Forall₂ (Slot.Fills r) rec.slots parts)
    {named : List String} :
    rec.missing? named = none ↔ ∀ p ∈ parts, p.presence = .required → p.name ∈ named := by
  rw [Record.missing?, Option.map_eq_none_iff]
  generalize rec.slots = slots at hslots
  induction hslots with
  | nil => simp
  | cons hfills hrest ih =>
    simp only [List.find?_eq_none, List.forall_mem_cons, hfills.name, hfills.presence] at ih ⊢
    rw [ih]
    simp

/-- The object form of a record. -/
lemma record_object_eq_ok_iff {start : Nat} {members : List (Key × Outline)}
    {closing : Except Fault Nat} {a : α} :
    rec.read r (.object start members closing) = .ok a ↔
      r.Opens ∧
      (∃ named, members.foldlM (rec.putMember r.inner) ⟨rec.blank, []⟩ = .ok ⟨a, named⟩ ∧
         rec.missing? named = none) ∧
        ∃ stop, closing = .ok stop := by
  simp only [Record.read, bind_eq_ok_iff, Reading.enter_eq_ok_iff]
  constructor
  · rintro ⟨inner, ⟨hopens, rfl⟩, ⟨value, named⟩, hfold, h⟩
    cases closing with
    | error fault => cases h
    | ok stop =>
      simp only at h
      split at h
      · cases h
      · rename_i hmissing
        cases h
        exact ⟨hopens, ⟨named, hfold, hmissing⟩, stop, rfl⟩
  · rintro ⟨hopens, ⟨named, hfold, hmissing⟩, stop, rfl⟩
    refine ⟨r.inner, ⟨hopens, rfl⟩, ⟨a, named⟩, hfold, ?_⟩
    simp only [hmissing]
    rfl

end Object

/-! ### Reading lists -/

section List

variable {rec : Record α}

/-- Items are put into slots one after another; the slots without an item have a default. -/
lemma putItems_eq_ok_iff {slots : List (Slot α)} {parts : List (Portion α)}
    (hslots : List.Forall₂ (Slot.Fills r) slots parts)
    {items : List Outline} {ts : List Tree}
    (hitems : List.Forall₂ (fun o t => o.tree? = some t) items ts) (stop done : Nat) (a c : α) :
    rec.putItems r (.ok stop) done slots items a = .ok c ↔
      (∀ p ∈ parts.drop ts.length, p.presence = .defaulted) ∧
      Chain parts (valuesOf parts ts) a c := by
  induction hslots generalizing items ts done a with
  | nil => simp [Record.putItems, valuesOf, chain_nil_iff]
  | @cons slot p slots parts hfills hrest ih =>
    cases hitems with
    | nil =>
      rw [Record.putItems, valuesOf, chain_none_iff]
      simp only [hfills.presence, beq_iff_eq, List.length_nil, List.drop_zero, List.forall_mem_cons]
      by_cases hdefault : p.presence = .defaulted
      · rw [if_pos hdefault, ih .nil]
        simp [hdefault]
      · rw [if_neg hdefault]
        exact iff_of_false tooShort_ne_ok fun h => hdefault h.1.1
    | @cons item t items ts hitem hitems =>
      rw [Record.putItems, valuesOf, chain_some_iff, bind_eq_ok_iff]
      simp only [hfills.ok_iff hitem, ih hitems, List.length_cons, List.drop_succ_cons]
      constructor
      · rintro ⟨b, hput, hdefault, hchain⟩
        exact ⟨hdefault, b, hput, hchain⟩
      · rintro ⟨hdefault, b, hput, hchain⟩
        exact ⟨b, hput, hdefault, hchain⟩

/-- Items that were put into slots have no fault. -/
lemma tree?_of_putItems {slots : List (Slot α)} {parts : List (Portion α)}
    (hslots : List.Forall₂ (Slot.Fills r) slots parts) (hheld : r.held = false)
    {items : List Outline} (hlength : items.length ≤ slots.length) {closing : Except Fault Nat}
    {done : Nat} {a c : α} (h : rec.putItems r closing done slots items a = .ok c) :
    ∀ o ∈ items, ∃ t, o.tree? = some t := by
  induction hslots generalizing items done a with
  | nil =>
    obtain rfl := List.eq_nil_of_length_eq_zero (Nat.le_zero.mp hlength)
    exact fun _ ho => absurd ho List.not_mem_nil
  | @cons slot p slots parts hfills hrest ih =>
    cases items with
    | nil => exact fun _ ho => absurd ho List.not_mem_nil
    | cons item items =>
      rw [Record.putItems, bind_eq_ok_iff] at h
      obtain ⟨b, hput, h⟩ := h
      exact List.forall_mem_cons.mpr
        ⟨hfills.whole hheld hput, ih (Nat.le_of_succ_le_succ hlength) h⟩

/-- The list form of a record. -/
lemma record_list_eq_ok_iff {start : Nat} {items : List Outline} {closing : Except Fault Nat}
    {a : α} :
    rec.read r (.list start items closing) = .ok a ↔
      r.Opens ∧ items.length ≤ rec.slots.length ∧
        ∃ stop, closing = .ok stop ∧
          rec.putItems r.inner (.ok stop) 0 rec.slots items rec.blank = .ok a := by
  simp only [Record.read, bind_eq_ok_iff, Reading.enter_eq_ok_iff, overrun_eq_ok_iff,
    List.drop_eq_nil_iff]
  constructor
  · rintro ⟨inner, ⟨hopens, rfl⟩, value, hput, -, ⟨hlength, stop, rfl⟩, heq⟩
    cases heq
    exact ⟨hopens, hlength, stop, rfl, hput⟩
  · rintro ⟨hopens, hlength, stop, rfl, hput⟩
    exact ⟨r.inner, ⟨hopens, rfl⟩, a, hput, (), ⟨hlength, stop, rfl⟩, rfl⟩

end List

/-! ### Reading records -/

section Reads

variable {rec : Record α} {parts : List (Portion α)} {start stop : Nat} {blank a : α}

lemma meansRecord_object_iff {ms : List (Option String × Tree)} :
    MeansRecord parts blank (.object ms) a ↔
      Leads parts ms ⟨blank, []⟩ a ∧
      ∀ p ∈ parts, p.presence = .required → some p.name ∈ ms.map (·.1) := by
  constructor
  · rintro ⟨values, harranges, hchain⟩
    cases harranges with
    | object hkeys honce hrequired =>
      exact ⟨⟨⟨hkeys, fun p hp => ⟨honce p hp, fun h => absurd h List.not_mem_nil⟩⟩, hchain⟩,
        hrequired⟩
  · rintro ⟨⟨⟨hkeys, honce⟩, hchain⟩, hrequired⟩
    exact ⟨_, .object hkeys (fun p hp => (honce p hp).1) hrequired, hchain⟩

lemma meansRecord_list_iff {ts : List Tree} : MeansRecord parts blank (.list ts) a ↔
    ts.length ≤ parts.length ∧ (∀ p ∈ parts.drop ts.length, p.presence = .defaulted) ∧
    Chain parts (valuesOf parts ts) blank a := by
  constructor
  · rintro ⟨values, harranges, hchain⟩
    cases harranges with
    | list hlength hrest => exact ⟨hlength, hrest, hchain⟩
  · rintro ⟨hlength, hrest, hchain⟩
    exact ⟨_, .list hlength hrest, hchain⟩

lemma record_object_iff (hslots : List.Forall₂ (Slot.Fills r.inner) rec.slots parts)
    (hcomm : parts.Pairwise Portion.Commutes)
    (hnames : (parts.map (·.name)).Nodup) (hopens : r.Opens) {members : List (Key × Outline)}
    {ms : List (Option String × Tree)}
    (hmembers : List.Forall₂ (fun member m => member.1.text.toOption = m.1 ∧
      member.2.tree? = some m.2) members ms) :
    rec.read r (.object start members (.ok stop)) = .ok a ↔
      MeansRecord parts rec.blank (.object ms) a := by
  have hkeys : members.map (·.1.text.toOption) = ms.map (·.1) := by
    rw [← List.forall₂_eq_eq_eq, List.forall₂_map_left_iff, List.forall₂_map_right_iff]
    exact hmembers.imp fun _ _ h => h.1
  have hfold := foldlM_putMember_iff hslots hcomm hnames hmembers ⟨rec.blank, []⟩ a
  have hnamed : ∀ named, members.foldlM (rec.putMember r.inner) ⟨rec.blank, []⟩ = .ok ⟨a, named⟩ →
      (rec.missing? named = none ↔
         ∀ p ∈ parts, p.presence = .required → some p.name ∈ ms.map (·.1)) := by
    intro named h
    rw [missing?_eq_none_iff hslots, ← hkeys]
    refine forall₂_congr fun p hp => ?_
    rw [mem_named_iff hslots h hp]
    simp
  rw [record_object_eq_ok_iff, meansRecord_object_iff, ← hfold]
  constructor
  · rintro ⟨-, ⟨named, h, hmissing⟩, -⟩
    exact ⟨⟨named, h⟩, (hnamed named h).mp hmissing⟩
  · rintro ⟨⟨named, h⟩, hrequired⟩
    exact ⟨hopens, ⟨named, h, (hnamed named h).mpr hrequired⟩, stop, rfl⟩

lemma record_list_iff (hslots : List.Forall₂ (Slot.Fills r.inner) rec.slots parts)
    (hopens : r.Opens) {items : List Outline} {ts : List Tree}
    (hitems : List.Forall₂ (fun o t => o.tree? = some t) items ts) :
    rec.read r (.list start items (.ok stop)) = .ok a ↔
      MeansRecord parts rec.blank (.list ts) a := by
  have hlength : items.length = ts.length := hitems.length_eq
  have hparts : rec.slots.length = parts.length := hslots.length_eq
  rw [record_list_eq_ok_iff, meansRecord_list_iff]
  constructor
  · rintro ⟨-, hle, stop, -, hput⟩
    exact ⟨by omega, (putItems_eq_ok_iff hslots hitems stop 0 _ _).mp hput⟩
  · rintro ⟨hle, hput⟩
    exact ⟨hopens, by omega, stop, rfl, (putItems_eq_ok_iff hslots hitems stop 0 _ _).mpr hput⟩

/-- An outline that a record was read from has no fault. -/
lemma tree?_of_record (hslots : List.Forall₂ (Slot.Fills r.inner) rec.slots parts)
    (hheld : r.held = false) {o : Outline} (h : rec.read r o = .ok a) : ∃ t, o.tree? = some t := by
  have hinner : r.inner.held = false := by rw [Reading.held_inner, hheld]
  cases o with
  | object start members closing =>
    obtain ⟨-, ⟨named, hfold, -⟩, stop, rfl⟩ := record_object_eq_ok_iff.mp h
    obtain ⟨ms, hms⟩ := memberTrees?_of_whole (tree?_of_putMember hslots hinner hfold)
    exact ⟨.object ms, by rw [Outline.tree?, hms, Option.map_some]⟩
  | list start items closing =>
    obtain ⟨-, hlength, stop, rfl, hput⟩ := record_list_eq_ok_iff.mp h
    obtain ⟨ts, hts⟩ := itemTrees?_of_whole (tree?_of_putItems hslots hinner hlength hput)
    exact ⟨.list ts, by rw [Outline.tree?, hts, Option.map_some]⟩
  | _ => cases h

end Reads

/-- A record is read from a tree just if the tree gives values to its parts, and as the blank
record with these values. -/
theorem reads_record (rec : Record α) {parts : List (Portion α)}
    (hslots : List.Forall₂ (Slot.Fills r.inner) rec.slots parts)
    (hcomm : parts.Pairwise Portion.Commutes) (hnames : (parts.map (·.name)).Nodup)
    (hopens : r.Opens) : Reads r rec.read (MeansRecord parts rec.blank) where
  ok_iff ht a := by
    cases Outline.tree?_eq_some_iff.mp ht with
    | object _ _ hmembers => exact record_object_iff hslots hcomm hnames hopens hmembers
    | list _ _ hitems => exact record_list_iff hslots hopens hitems
    | _ =>
      simp only [Record.read, reduceCtorEq, false_iff]
      rintro ⟨values, ⟨⟩, -⟩
  whole hheld _ _ hread := tree?_of_record hslots hheld hread

/-! ### Records that go together -/

/-- Whatever the one part puts into a record, the other puts something into a record
that goes with it. -/
structure Portion.Follows (R : α → β → Prop) (p : Portion α) (q : Portion β) : Prop where
  name : p.name = q.name
  presence : p.presence = q.presence
  puts : ∀ {t : Tree} {a a' : α} {b : β}, R a b → p.puts t a a' → ∃ b', q.puts t b b' ∧ R a' b'

lemma Portion.follows_of {γ δ : Type} {R : α → β → Prop} {means : Tree → γ → Prop}
    {means' : Tree → δ → Prop} {set : γ → α → α} {set' : δ → β → β}
    (h : ∀ t x, means t x → ∃ y, means' t y ∧ ∀ a b, R a b → R (set x a) (set' y b)) (name : String)
    (presence : Presence) :
    Portion.Follows R (.of name presence means set) (.of name presence means' set') where
  name := rfl
  presence := rfl
  puts {t a a' b} hab hput := by
    obtain ⟨x, hx, rfl⟩ := hput
    obtain ⟨y, hy, hset⟩ := h t x hx
    exact ⟨_, ⟨y, hy, rfl⟩, hset a b hab⟩

section Follows

variable {R : α → β → Prop} {parts : List (Portion α)} {others : List (Portion β)}
  {values : List (Option Tree)} {t : Tree}

lemma valuesOf_follows (h : List.Forall₂ (Portion.Follows R) parts others) (ts : List Tree) :
    valuesOf parts ts = valuesOf others ts := by
  induction h generalizing ts with
  | nil => rfl
  | cons hpart hrest ih =>
    cases ts with
    | nil => rw [valuesOf, valuesOf, ih]
    | cons t ts => rw [valuesOf, valuesOf, ih]

lemma Arranges.follows (h : List.Forall₂ (Portion.Follows R) parts others)
    (harranges : Arranges parts t values) : Arranges others t values := by
  have hpart : ∀ {q}, q ∈ others → ∃ p ∈ parts, Portion.Follows R p q :=
    fun hq => Forall₂.exists_of_mem h.flip hq
  cases harranges with
  | @object ms hkeys honce hrequired =>
    have hvalues : (parts.map fun p => ms.lookup (some p.name)) =
        others.map fun q => ms.lookup (some q.name) := by
      rw [← List.forall₂_eq_eq_eq, List.forall₂_map_left_iff, List.forall₂_map_right_iff]
      exact h.imp fun p q hpq => by rw [hpq.name]
    rw [hvalues]
    refine .object hkeys (fun q hq => ?_) fun q hq hpresence => ?_ <;>
      obtain ⟨p, hp, hpq⟩ := hpart hq <;> rw [← hpq.name]
    · exact honce p hp
    · exact hrequired p hp (hpq.presence.trans hpresence)
  | @list ts hlength hrest =>
    rw [valuesOf_follows h]
    refine .list (h.length_eq ▸ hlength) fun q hq => ?_
    obtain ⟨p, hp, hpq⟩ := Forall₂.exists_of_mem (List.forall₂_drop ts.length h).flip hq
    rw [← hpq.presence]
    exact hrest p hp

lemma Chain.follows (h : List.Forall₂ (Portion.Follows R) parts others) {a c : α} {b : β}
    (hab : R a b) (hchain : Chain parts values a c) : ∃ d, Chain others values b d ∧ R c d := by
  induction h generalizing values a b with
  | nil =>
    cases hchain
    exact ⟨b, .nil b, hab⟩
  | cons hpart hrest ih =>
    cases hchain with
    | put hput hmore =>
      obtain ⟨b', hput', hab'⟩ := hpart.puts hab hput
      obtain ⟨d, hd, hcd⟩ := ih hab' hmore
      exact ⟨d, .put hput' hd, hcd⟩
    | keep hmore =>
      obtain ⟨d, hd, hcd⟩ := ih hab hmore
      exact ⟨d, .keep hd, hcd⟩

/-- A tree that means a record also means one that goes with it, if the parts go together. -/
theorem MeansRecord.follows (h : List.Forall₂ (Portion.Follows R) parts others) {blank a : α}
    {blank' : β} (hblank : R blank blank') (hmeans : MeansRecord parts blank t a) :
    ∃ b, MeansRecord others blank' t b ∧ R a b := by
  obtain ⟨values, harranges, hchain⟩ := hmeans
  obtain ⟨b, hb, hab⟩ := hchain.follows h hblank
  exact ⟨b, ⟨values, harranges.follows h, hb⟩, hab⟩

end Follows

end Records

end ClusterCost.Json
