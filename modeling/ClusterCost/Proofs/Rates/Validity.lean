import ClusterCost.Proofs.Decimal.Numeral
import ClusterCost.Proofs.Rates.Edits
import ClusterCost.Proofs.Rates.Store
import Mathlib.Logic.Relation

/-!
# Valid cards

A card is valid if the text of each rate is empty or spells a number that can be charged, and its
flag is one of two words. Edits that set fields, and do nothing else, keep a card valid, for a
field is only set to a text that passes the check of its kind (`Store.valid_of_reaches`). The
check and the formulas read a rate in the same way, but for the empty text, which passes the check
and is no number. So a valid card fails to give a price only by the empty texts among the rates
for it (`RateCard.ReadsRates`).
-/

namespace ClusterCost

namespace RateCard

/-! ### Validity -/

/-- A number that can be charged: it is finite and not below zero. -/
def Chargeable (rate : Float) : Prop := rate.isFinite = true ∧ 0 ≤ rate

/-- A text for a rate: empty, or with the white space at its ends taken off a numeral
that can be charged. -/
def RateText (text : String) : Prop :=
  text = "" ∨ ∃ n, Numeral.Spells (Blank.trim text).toList n ∧ Chargeable n.toFloat

structure Valid (c : RateCard) : Prop where
  rates : ∀ f : Field, f.kind = .rate → RateText (c.text f)
  flag : c.text .customPricesEnabled = "true" ∨ c.text .customPricesEnabled = "false"

section Valid

variable {c d : RateCard} {f : Field} {text : String}

lemma rateOf_eq_ok_iff {rate : Float} :
    rateOf text = .ok rate ↔ ∃ n, Numeral.Spells (Blank.trim text).toList n ∧ n.toFloat = rate :=
  Numeral.readFloat_eq_ok_iff

lemma rateText_iff :
    RateText text ↔ text = "" ∨ ∃ rate, rateOf text = .ok rate ∧ Chargeable rate := by
  rw [RateText]
  apply or_congr_right
  constructor
  · rintro ⟨n, hspells, hcharge⟩
    exact ⟨n.toFloat, rateOf_eq_ok_iff.mpr ⟨n, hspells, rfl⟩, hcharge⟩
  · rintro ⟨rate, hrate, hcharge⟩
    obtain ⟨n, hspells, rfl⟩ := rateOf_eq_ok_iff.mp hrate
    exact ⟨n, hspells, hcharge⟩

lemma check_rate_iff : check .rate text = .ok () ↔ RateText text := by
  rw [rateText_iff, check]
  by_cases hempty : text = ""
  · simp [hempty]
  · simp only [beq_eq_false_iff_ne.mpr hempty, Bool.false_eq_true, if_false, hempty, false_or]
    cases rateOf text with
    | error e => simp
    | ok rate => simp [Chargeable]

lemma check_flag_iff : check .flag text = .ok () ↔ text = "true" ∨ text = "false" := by
  rw [check]
  by_cases h : text = "true" <;> simp [h]

/-- A card is valid if and only if each of its texts passes the check of its field. -/
lemma valid_iff : c.Valid ↔ ∀ f : Field, check f.kind (c.text f) = .ok () := by
  constructor
  · intro h f
    cases hkind : f.kind with
    | text => rfl
    | rate => exact check_rate_iff.mpr (h.rates f hkind)
    | flag =>
      obtain rfl : f = .customPricesEnabled := by cases f <;> first | rfl | cases hkind
      exact check_flag_iff.mpr h.flag
  · intro h
    constructor
    · intro f hkind
      have hf := h f
      rw [hkind] at hf
      exact check_rate_iff.mp hf
    · exact check_flag_iff.mp (h .customPricesEnabled)

lemma valid_default : default.Valid := by
  rw [valid_iff]
  have hinitial : ∀ f ∈ Field.all, check f.kind (Field.initial f) = .ok () := by decide +kernel
  exact fun f => hinitial f f.mem_all

/-! ### Setting fields -/

lemma Valid.set {name value : String} (hc : c.Valid) (h : c.set name value = .ok d) : d.Valid := by
  have hout := c.set_outcome name value
  rw [h] at hout
  cases hout with
  | set f hfield hcheck =>
    rw [valid_iff] at hc ⊢
    intro g
    rw [text_put]
    split_ifs with hg
    · exact hg ▸ hcheck
    · exact hc g

/-- The second card is the first one with a field set. -/
def Sets (c d : RateCard) : Prop := ∃ name value, c.set name value = .ok d

lemma Valid.sets (hc : c.Valid) (h : Relation.ReflTransGen Sets c d) : d.Valid := by
  induction h with
  | refl => exact hc
  | tail sets step ih =>
    obtain ⟨name, value, hset⟩ := step
    exact ih.set hset

/-- An edit that changes a card by setting fields alone. It is free to go on after a field that was
refused, and to choose what to set by what there is. -/
def SetsOnly (edit : RateCard → Except PricingError RateCard) : Prop :=
  ∀ c d, edit c = .ok d → Relation.ReflTransGen Sets c d

lemma setsOnly_foldlM {α : Type} (step : RateCard → α → Except PricingError RateCard)
    (hstep : ∀ a, SetsOnly fun c => step c a) (as : List α) :
    SetsOnly fun c => as.foldlM step c := by
  intro c d (h : as.foldlM step c = .ok d)
  induction as generalizing c with
  | nil =>
    cases h
    exact .refl
  | cons a rest ih =>
    rw [List.foldlM_cons] at h
    cases hfirst : step c a with
    | error e =>
      rw [hfirst] at h
      cases h
    | ok between =>
      rw [hfirst] at h
      exact (hstep a c between hfirst).trans (ih between h)

lemma setsOnly_set (name value : String) : SetsOnly (·.set name value) :=
  fun _ _ h => .single ⟨name, value, h⟩

lemma setsOnly_setAll (values : List (String × String)) : SetsOnly (·.setAll values) :=
  setsOnly_foldlM (fun c (entry : String × String) => c.set entry.1 entry.2)
    (fun entry => setsOnly_set entry.1 entry.2) values

lemma setsOnly_apply (update : CardUpdate) : SetsOnly update.apply := by
  refine setsOnly_foldlM CardUpdate.applyEntry ?_ update.entries
  rintro ⟨name, value⟩ c d h
  cases value with
  | none => cases h
  | some value => exact setsOnly_set name value c d h

lemma setsOnly_editOfBody (body : CardUpdate.Body) : SetsOnly (Provider.editOfBody body) := by
  intro c d h
  rw [Provider.editOfBody] at h
  cases hbody : CardUpdate.ofBody body with
  | error refusal =>
    rw [hbody] at h
    cases h
  | ok update =>
    rw [hbody] at h
    exact setsOnly_apply update c d h

end Valid

/-! ### Prices -/

/-- A price is made from these rates of a card, which are read in this order: there is none if and
only if one of them is empty, and then the first empty one is named. -/
structure ReadsRates {α : Type} (c : RateCard) (fields : List Field)
    (price : Except PricingError α) : Prop where
  fails : (∃ e, price = .error e) ↔ ∃ f ∈ fields, c.text f = ""
  named : ∀ e, price = .error e →
    ∃ before f after, fields = before ++ f :: after ∧ (∀ g ∈ before, c.text g ≠ "") ∧
    c.text f = "" ∧ e = .parse f.key "" .empty

section Prices

variable {α β : Type} {c : RateCard} {f : Field} {fields : List Field}
  {price : Except PricingError α}

lemma rate_of_empty (h : c.text f = "") : c.rate f = .error (.parse f.key "" .empty) := by
  rw [rate, h]
  rfl

/-- A rate that is not empty can be charged. -/
lemma Valid.rate (h : c.Valid) (hkind : f.kind = .rate) (hsome : c.text f ≠ "") :
    ∃ x, c.rate f = .ok x ∧ Chargeable x := by
  obtain ⟨x, hx, hcharge⟩ := (rateText_iff.mp (h.rates f hkind)).resolve_left hsome
  refine ⟨x, ?_, hcharge⟩
  rw [RateCard.rate, hx]
  rfl

lemma readsRates_pure (c : RateCard) (a : α) : ReadsRates c [] (.ok a) where
  fails := by simp
  named := by
    intro e h
    cases h

/-- One more rate that is read before the others. -/
lemma Valid.readsRates_bind {next : Float → Except PricingError α} (h : c.Valid)
    (hkind : f.kind = .rate) (hnext : ∀ x, ReadsRates c fields (next x)) :
    ReadsRates c (f :: fields) (c.rate f >>= next) := by
  by_cases hempty : c.text f = ""
  · rw [rate_of_empty hempty]
    constructor
    · exact ⟨fun _ => ⟨f, List.mem_cons_self, hempty⟩, fun _ => ⟨_, rfl⟩⟩
    · intro e he
      cases he
      exact ⟨[], f, fields, rfl, by simp, hempty, rfl⟩
  · obtain ⟨x, hx, -⟩ := h.rate hkind hempty
    rw [hx]
    constructor
    · simp only [List.mem_cons, exists_eq_or_imp, hempty, false_or]
      exact (hnext x).fails
    · intro e he
      obtain ⟨before, g, after, rfl, hbefore, hg, herror⟩ := (hnext x).named e he
      exact ⟨f :: before, g, after, rfl, List.forall_mem_cons.mpr ⟨hempty, hbefore⟩, hg, herror⟩

lemma Valid.readsRates_network (h : c.Valid) :
    ReadsRates c [.zoneEgress, .regionEgress, .internetEgress] (NetworkRates.ofCard c) := by
  refine h.readsRates_bind rfl fun zone => ?_
  refine h.readsRates_bind rfl fun region => ?_
  refine h.readsRates_bind rfl fun internet => ?_
  exact readsRates_pure c _

lemma ReadsRates.map (h : ReadsRates c fields price) (g : α → β) :
    ReadsRates c fields (price.map g) := by
  have herror : ∀ e, price.map g = .error e ↔ price = .error e := by
    intro e
    cases price <;> simp [Except.map]
  constructor
  · simp only [herror]
    exact h.fails
  · intro e he
    exact h.named e ((herror e).mp he)

lemma Valid.readsRates_balancer (h : c.Valid) :
    ReadsRates c [.firstFiveRules, .additionalRule, .ingressData] (BalancerCost.ofCard c) := by
  have hrates :
      ReadsRates c [.firstFiveRules, .additionalRule, .ingressData] (BalancerRates.ofCard c) := by
    refine h.readsRates_bind rfl fun first => ?_
    refine h.readsRates_bind rfl fun additional => ?_
    refine h.readsRates_bind rfl fun ingress => ?_
    exact readsRates_pure c _
  have hcost : BalancerCost.ofCard c =
      (BalancerRates.ofCard c).map fun rates => ⟨rates.cost 1 0⟩ := by
    rw [BalancerCost.ofCard]
    cases BalancerRates.ofCard c <;> rfl
  rw [hcost]
  exact hrates.map _

end Prices

end RateCard

/-! ### Stores -/

namespace Store

/-- The stores that a store can come to by updates of its card that set fields, accepted or not,
whatever the files are at the time. The entries of a map may be taken in any order. -/
inductive Reaches (first : Store) : Store → Prop
  | start : Reaches first first
  | update {s : Store} {edit : RateCard → Except PricingError RateCard} (reaches : Reaches first s)
      (files : Files)
      (h : RateCard.SetsOnly edit) : Reaches first (s.update files edit).2.1
  | map {s : Store} (reaches : Reaches first s) (files : Files) (values : List (String × String)) :
      Reaches first (s.update files (·.setAll values)).2.1
  | body {s : Store} (reaches : Reaches first s) (files : Files) (body : CardUpdate.Body) :
      Reaches first (s.update files (Provider.editOfBody body)).2.1

variable {first s : Store} {edit : RateCard → Except PricingError RateCard}

lemma valid_update (hs : s.card.Valid) (files : Files) (h : RateCard.SetsOnly edit) :
    (s.update files edit).2.1.card.Valid := by
  have hout := s.update_outcome files edit
  generalize s.update files edit = updated at hout ⊢
  obtain ⟨result, store, left⟩ := updated
  cases hout with
  | refused e hedit => exact hs
  | notOpened card place error left hedit hkeep hdevice hfiles => exact hs
  | brokenOff card path fault left hedit hpath hkeep hfault hfills => exact hs
  | accepted card left hedit hkeep hread => exact hs.sets (h s.card card hedit)

lemma Reaches.valid (reaches : Reaches first s) (h : first.card.Valid) : s.card.Valid := by
  induction reaches with
  | start => exact h
  | update reaches files hedit ih => exact valid_update ih files hedit
  | map reaches files values ih => exact valid_update ih files (RateCard.setsOnly_setAll values)
  | body reaches files body ih => exact valid_update ih files (RateCard.setsOnly_editOfBody body)

/-- A valid card stays valid through updates of all kinds, and it has a price for network traffic
and for load balancers unless a rate for this is empty. -/
theorem valid_of_reaches :
    RateCard.default.Valid ∧
    (∀ {first s : Store}, first.card.Valid → Reaches first s → s.card.Valid) ∧
    ∀ {c : RateCard}, c.Valid →
      RateCard.ReadsRates c [.zoneEgress, .regionEgress, .internetEgress] (NetworkRates.ofCard c) ∧
      RateCard.ReadsRates c [.firstFiveRules, .additionalRule, .ingressData]
        (BalancerCost.ofCard c) := by
  refine ⟨RateCard.valid_default, ?_, ?_⟩
  · intro first s h reaches
    exact reaches.valid h
  · intro c h
    exact ⟨h.readsRates_network, h.readsRates_balancer⟩

/-- An edit goes on after a rate that is refused and empties another one; then a body is refused for
a rate that is not finite. -/
theorem valid_of_reaches_emptied :
    let edit (c : RateCard) : Except PricingError RateCard :=
      match c.set "CPU" "-0.1" with
      | .ok card => .ok card
      | .error _ => c.set "regionNetworkEgress" ""
    let body : CardUpdate.Body :=
      ⟨[Utf8.encode "\x7b\"RAM\":\" 0.5 \",\"storage\":\"1e400\"\x7d"], .finished⟩
    let s := ((Store.inMemory .default).update (.empty "/") edit).2.1
    let t := (s.update (.empty "/") (Provider.editOfBody body)).2.1
    Reaches (.inMemory .default) t ∧ t.card = s.card ∧ t.card.Valid ∧
      (∃ e, NetworkRates.ofCard t.card = .error e) ∧
      ¬ ∃ e, BalancerCost.ofCard t.card = .error e := by
  intro edit body s t
  obtain ⟨hdefault, hreaches, hprices⟩ := valid_of_reaches
  have hedit : RateCard.SetsOnly edit := by
    intro c d h
    simp only [edit] at h
    split at h
    · rename_i card hset
      cases h
      exact .single ⟨_, _, hset⟩
    · exact .single ⟨_, _, h⟩
  have reaches : Reaches (.inMemory .default) t :=
    (Reaches.start.update (.empty "/") hedit).body (.empty "/") body
  have valid := hreaches hdefault reaches
  obtain ⟨network, balancer⟩ := hprices valid
  refine ⟨reaches, ?_, valid, ?_, ?_⟩
  · decide +kernel
  · exact network.fails.mpr ⟨.regionEgress, by simp, by decide +kernel⟩
  · exact mt balancer.fails.mp (by decide +kernel)

end Store

end ClusterCost
