import ClusterCost.Proofs.Json.Records

/-!
# Changes that records do not notice

A record is read as the same from an object with the same members in another order, with more
members that it does not know, or with something else in a member that is read as the same
(`meansRecord_change_iff`). If an object has only members that the record knows, then whatever is
read as a record can also be kept (`MeansRecord.kept`).
-/

namespace ClusterCost.Json

/-! ### Changes -/

/-- A change to what a record is read from, which has parts of these names. One of them, the second
in order, may be changed inside. -/
inductive Change (names : List String) (key : String) (inner : Tree → Tree → Prop) :
    Tree → Tree → Prop
  /-- The members are put in another order. -/
  | order {ms ms' : List (Option String × Tree)} (h : ms.Perm ms') : Change names key inner
    (.object ms) (.object ms')
  /-- A member that the record does not know is put anywhere. -/
  | unknown (before after : List (Option String × Tree)) {name : String} (h : name ∉ names)
      (t : Tree) :
      Change names key inner (.object (before ++ after))
        (.object (before ++ (some name, t) :: after))
  | inside (before after : List (Option String × Tree)) {t t' : Tree} (h : inner t t') :
      Change names key inner (.object (before ++ (some key, t) :: after))
        (.object (before ++ (some key, t') :: after))
  | item (first : Tree) (rest : List Tree) {t t' : Tree} (h : inner t t') :
      Change names key inner (.list (first :: t :: rest)) (.list (first :: t' :: rest))

/-- What stands under the key, or second in a list, satisfies a condition. -/
def Within (key : String) (P : Tree → Prop) : Tree → Prop
  | .object ms => ∀ m ∈ ms, m.1 = some key → P m.2
  | .list (_ :: t :: _) => P t
  | _ => True

lemma Change.within_iff {names : List String} {key : String} {inner : Tree → Tree → Prop}
    {P : Tree → Prop} {t t' : Tree} (h : Change names key inner t t') (hkey : key ∈ names)
    (hinner : ∀ t t', inner t t' → (P t ↔ P t')) : Within key P t ↔ Within key P t' := by
  cases h with
  | order hperm => simp only [Within, hperm.mem_iff]
  | @unknown before after name hname t =>
    have hne : ¬ some name = some key := by
      rintro ⟨⟩
      exact hname hkey
    simp only [Within, List.forall_mem_append, List.forall_mem_cons, hne, false_implies, true_and]
  | inside before after h =>
    simp only [Within, List.forall_mem_append, List.forall_mem_cons, true_implies, hinner _ _ h]
  | item first rest h => exact hinner _ _ h

section Records

variable {α : Type} {parts : List (Portion α)} {blank a c : α}
  {ms ms' : List (Option String × Tree)} {t t' : Tree}

/-! ### Each change -/

/-- Where a key is given at most once, the order does not matter to its value. -/
lemma lookup_perm {key : Option String} (hperm : ms.Perm ms')
    (honce : (ms.map (·.1)).count key ≤ 1) : ms.lookup key = ms'.lookup key := by
  induction hperm with
  | nil => rfl
  | @cons m ms ms' _ ih =>
    rw [List.map_cons, List.count_cons] at honce
    rw [List.lookup_cons, List.lookup_cons, ih (by omega)]
  | swap m n ms =>
    obtain ⟨k, x⟩ := m
    obtain ⟨l, y⟩ := n
    simp only [List.lookup_cons]
    by_cases hk : key = k
    · by_cases hl : key = l
      · simp [← hk, ← hl] at honce
      · rw [beq_eq_false_iff_ne.mpr hl]
    · rw [beq_eq_false_iff_ne.mpr hk]
  | trans hperm _ ih ih' => exact (ih honce).trans (ih' (by rwa [← (hperm.map _).count_eq]))

lemma MeansRecord.perm (hperm : ms.Perm ms') (h : MeansRecord parts blank (.object ms) a) :
    MeansRecord parts blank (.object ms') a := by
  rw [meansRecord_object_iff] at h ⊢
  obtain ⟨⟨⟨hkeys, honce⟩, hchain⟩, hrequired⟩ := h
  have hnames : (ms.map (·.1)).Perm (ms'.map (·.1)) := hperm.map _
  have hvalues : valuesIn ms' parts = valuesIn ms parts :=
    List.map_congr_left fun p hp => (lookup_perm hperm (honce p hp).1).symm
  simp only [Leads, Given, hvalues, ← hperm.mem_iff, ← hnames.mem_iff, ← hnames.count_eq]
  exact ⟨⟨⟨hkeys, honce⟩, hchain⟩, hrequired⟩

lemma meansRecord_perm_iff (hperm : ms.Perm ms') :
    MeansRecord parts blank (.object ms) a ↔ MeansRecord parts blank (.object ms') a :=
  ⟨MeansRecord.perm hperm, MeansRecord.perm hperm.symm⟩

lemma meansRecord_unknown_iff {name : String} (h : ∀ p ∈ parts, p.name ≠ name) :
    MeansRecord parts blank (.object ((some name, t) :: ms)) a ↔
      MeansRecord parts blank (.object ms) a := by
  rw [meansRecord_object_iff, meansRecord_object_iff, leads_unknown_iff h]
  refine and_congr_right fun _ => forall₂_congr fun p hp => ?_
  rw [List.map_cons, List.mem_cons, or_iff_right fun heq => h p hp (Option.some.inj heq)]

/-- A value may be replaced by one that its part takes in the same way. -/
lemma meansRecord_inside_iff {p : Portion α} {ps qs : List (Portion α)}
    (hnames : ((ps ++ p :: qs).map (·.name)).Nodup)
    (hputs : ∀ a b, p.puts t a b ↔ p.puts t' a b) :
    MeansRecord (ps ++ p :: qs) blank (.object ((some p.name, t) :: ms)) a ↔
      MeansRecord (ps ++ p :: qs) blank (.object ((some p.name, t') :: ms)) a := by
  simp only [meansRecord_object_iff, Leads, Given, List.forall_mem_cons, List.map_cons,
    valuesIn_cons_known hnames]
  rw [chain_append_iff (by simp [valuesIn]), chain_append_iff (by simp [valuesIn])]
  simp only [chain_some_iff, hputs]

lemma meansRecord_item_iff {p q : Portion α} {ps : List (Portion α)} {first : Tree}
    {rest : List Tree} (hputs : ∀ a b, q.puts t a b ↔ q.puts t' a b) :
    MeansRecord (p :: q :: ps) blank (.list (first :: t :: rest)) a ↔
      MeansRecord (p :: q :: ps) blank (.list (first :: t' :: rest)) a := by
  simp only [meansRecord_list_iff, valuesOf, chain_some_iff, List.length_cons, hputs]

/-- A record does not notice changes, if its second part does not notice those inside. -/
theorem meansRecord_change_iff {p q : Portion α} {ps : List (Portion α)}
    (hnames : ((p :: q :: ps).map (·.name)).Nodup)
    {inner : Tree → Tree → Prop} {P : Tree → Prop}
    (hinner : ∀ t t', inner t t' → P t → ∀ a b, q.puts t a b ↔ q.puts t' a b)
    (h : Change ((p :: q :: ps).map (·.name)) q.name inner t t') (hwithin : Within q.name P t) :
    MeansRecord (p :: q :: ps) blank t a ↔ MeansRecord (p :: q :: ps) blank t' a := by
  cases h with
  | order hperm => exact meansRecord_perm_iff hperm
  | @unknown before after name hname t =>
    have hne : ∀ r ∈ p :: q :: ps, r.name ≠ name := by
      rintro r hr rfl
      exact hname (List.mem_map_of_mem hr)
    rw [meansRecord_perm_iff List.perm_middle, meansRecord_unknown_iff hne]
  | @inside before after t t' h =>
    have hputs := hinner t t' h (hwithin (some q.name, t) (by simp) rfl)
    calc MeansRecord (p :: q :: ps) blank (.object (before ++ (some q.name, t) :: after)) a
        ↔ MeansRecord (p :: q :: ps) blank (.object ((some q.name, t) :: (before ++ after))) a :=
          meansRecord_perm_iff List.perm_middle
      _ ↔ MeansRecord (p :: q :: ps) blank (.object ((some q.name, t') :: (before ++ after))) a :=
        @meansRecord_inside_iff _ _ _ _ _ _ q [p] ps hnames hputs
      _ ↔ MeansRecord (p :: q :: ps) blank (.object (before ++ (some q.name, t') :: after)) a :=
        meansRecord_perm_iff List.perm_middle.symm
  | @item first rest t t' h => exact meansRecord_item_iff (hinner t t' h hwithin)

/-! ### Keeping a record -/

lemma Chain.puts_of_mem {values : List (Option Tree)} (h : Chain parts values a c)
    (ht : some t ∈ values) : ∃ p ∈ parts, ∃ a b, p.puts t a b := by
  induction h with
  | nil => cases ht
  | @put p ps u vs a b c hput more ih =>
    rcases List.mem_cons.mp ht with heq | ht
    · cases heq
      exact ⟨p, List.mem_cons_self, a, b, hput⟩
    · obtain ⟨q, hq, h⟩ := ih ht
      exact ⟨q, List.mem_cons_of_mem _ hq, h⟩
  | keep more ih =>
    obtain ⟨q, hq, h⟩ := ih ((List.mem_cons.mp ht).resolve_left (by simp))
    exact ⟨q, List.mem_cons_of_mem _ hq, h⟩

lemma mem_valuesOf {ts : List Tree} (hlength : ts.length ≤ parts.length) (ht : t ∈ ts) :
    some t ∈ valuesOf parts ts := by
  induction parts generalizing ts with
  | nil =>
    rw [List.eq_nil_of_length_eq_zero (Nat.le_zero.mp hlength)] at ht
    cases ht
  | cons p ps ih =>
    cases ts with
    | nil => cases ht
    | cons u ts =>
      rw [valuesOf]
      rcases List.mem_cons.mp ht with rfl | ht
      · exact List.mem_cons_self
      · exact List.mem_cons_of_mem _ (ih (Nat.le_of_succ_le_succ hlength) ht)

lemma lookup_eq_some {key : Option String} (honce : (ms.map (·.1)).count key ≤ 1)
    (h : (key, t) ∈ ms) : ms.lookup key = some t := by
  obtain ⟨before, after, rfl⟩ := List.append_of_mem h
  rw [lookup_perm List.perm_middle honce, List.lookup_cons_self]

/-- Each value in an object without members that the record does not know, or in a list, is taken by
a part. So it can be kept if the part takes only what can be kept. -/
theorem MeansRecord.kept {room : Nat} (h : MeansRecord parts blank t a)
    (hputs : ∀ p ∈ parts, ∀ t a b, p.puts t a b → t.Kept room)
    (hknown : ∀ ms, t = .object ms → ∀ m ∈ ms, ∃ p ∈ parts, m.1 = some p.name) :
    t.Kept (room + 1) := by
  obtain ⟨values, harranges, hchain⟩ := h
  have hvalue : ∀ u, some u ∈ values → u.Kept room := by
    intro u hu
    obtain ⟨p, hp, a, b, hput⟩ := hchain.puts_of_mem hu
    exact hputs p hp u a b hput
  cases harranges with
  | @object ms hkeys honce hrequired =>
    refine .object hkeys fun m hm => ?_
    obtain ⟨p, hp, hname⟩ := hknown ms rfl m hm
    apply hvalue
    exact List.mem_map.mpr ⟨p, hp, lookup_eq_some (honce p hp) (hname ▸ hm)⟩
  | list hlength hrest => exact .list fun u hu => hvalue u (mem_valuesOf hlength hu)

end Records

end ClusterCost.Json
