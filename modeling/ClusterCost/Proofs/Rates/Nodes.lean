import ClusterCost.Proofs.Rates.Store
import ClusterCost.Rates.Provider

/-!
# The prices of nodes

By a table that was built from a card every node has a price, or there is a named gap
(`RateTable.priced_ofCard`). The fallback for unknown features comes before the GPU is added to
them, so that there is a gap for each node with a GPU whose features are not those of a plain node,
and of the nodes that are keyed by their labels for those alone that are spot nodes too
(`RateTable.pricedNode_ofCard`). A provider prices from the table of its latest rebuild, and before
the first one nothing (`Provider.prices_of_history`).
-/

namespace ClusterCost

/-! ### Tables of a card -/

/-- The features by which a node is priced, its GPU aside: unknown ones are those of a
plain node. -/
def Features.base (features : String) : String :=
  if features = plain ∨ features = spot ∨ features = withGpu then features else plain

lemma Features.base_cases (features : String) :
    base features = plain ∨ base features = spot ∨ base features = withGpu := by
  rw [base]
  split_ifs with h
  · exact h
  · exact .inl rfl

namespace RateTable

/-- The price of a node by a card: a row with its texts, or the gap. -/
inductive Priced (c : RateCard) (key : NodeKey) : Except PricingError NodeCharge → Prop
  | plain (hbase : Features.base key.features = "default") (hgpu : key.gpuType = "") :
      Priced c key (.ok ⟨c.text .cpu, c.text .ram, "", ""⟩)
  | spot (hbase : Features.base key.features = "default,spot") (hgpu : key.gpuType = "") :
      Priced c key (.ok ⟨c.text .spotCpu, c.text .spotRam, "", ""⟩)
  | ofFeatures (hbase : Features.base key.features = "default,gpu") (hgpu : key.gpuType = "") :
      Priced c key (.ok ⟨c.text .cpu, c.text .ram, c.text .gpu, ""⟩)
  | withGpu (hbase : Features.base key.features = "default") (hgpu : key.gpuType ≠ "") :
      Priced c key (.ok ⟨c.text .cpu, c.text .ram, c.text .gpu, "1"⟩)
  | missing (hbase : Features.base key.features ≠ "default") (hgpu : key.gpuType ≠ "") :
      Priced c key (.error (.missingRate (Features.base key.features ++ ",gpu")))

section OfCard

variable (c : RateCard)

lemma base_ofCard (features : String) :
    (if (ofCard c).rows.contains features then features else Features.plain) =
      Features.base features := by
  have hkeys : (ofCard c).rows.keys = [Features.plain, Features.spot, Features.withGpu] := rfl
  have hcontains : (ofCard c).rows.contains features = true ↔
      features = Features.plain ∨ features = Features.spot ∨ features = Features.withGpu := by
    rw [Dictionary.contains, hkeys, List.contains_iff_mem]
    simp only [List.mem_cons, List.not_mem_nil, or_false]
  rw [Features.base]
  exact if_congr hcontains rfl rfl

lemma priced_ofCard (key : NodeKey) : Priced c key ((ofCard c).price key) := by
  simp only [price, base_ofCard]
  by_cases hgpu : key.gpuType = ""
  · simp only [hgpu, beq_self_eq_true, if_true]
    rcases Features.base_cases key.features with hbase | hbase | hbase
    · rw [hbase]
      exact .plain hbase hgpu
    · rw [hbase]
      exact .spot hbase hgpu
    · rw [hbase]
      exact .ofFeatures hbase hgpu
  · simp only [beq_eq_false_iff_ne.mpr hgpu, Bool.false_eq_true, if_false]
    by_cases hplain : Features.base key.features = Features.plain
    · rw [hplain]
      exact .withGpu hplain hgpu
    · have hnone : (ofCard c).rows.get? (Features.base key.features ++ ",gpu") = none := by
        rcases (Features.base_cases key.features).resolve_left hplain with hbase | hbase
        · rw [hbase]
          rfl
        · rw [hbase]
          rfl
      rw [hnone]
      exact .missing hplain hgpu

end OfCard

end RateTable

/-! ### Nodes by their labels -/

namespace MarkerLabels

variable (m : MarkerLabels) (labels : Labels)

/-- The node has the spot label with the value that tells spot nodes, which is not empty. -/
def IsSpot : Prop :=
  ∃ value, labels.get? m.spotLabel = some value ∧ value ≠ "" ∧ value = m.spotLabelValue

/-- The node has the GPU label with a value that is not empty. -/
def HasGpu : Prop := ∃ value, labels.get? m.gpuLabel = some value ∧ value ≠ ""

lemma features_key_of_isSpot (h : m.IsSpot labels) : (m.key labels).features = Features.spot := by
  obtain ⟨value, hvalue, hne, heq⟩ := h
  simp [key, hvalue, hne, ← heq]

lemma features_key_of_not_isSpot (h : ¬ m.IsSpot labels) :
    (m.key labels).features = Features.plain := by
  rw [key]
  cases hvalue : labels.get? m.spotLabel with
  | none => rfl
  | some value =>
    simp only [Bool.and_eq_true, bne_iff_ne, beq_iff_eq]
    exact if_neg fun hspot => h ⟨value, hvalue, hspot⟩

lemma gpuType_key : (m.key labels).gpuType ≠ "" ↔ m.HasGpu labels := by
  rw [key, HasGpu]
  cases labels.get? m.gpuLabel <;> simp

/-- Without marker labels no node is keyed as a spot node. -/
lemma not_isSpot_blank : ¬ (⟨"", "", "", ""⟩ : MarkerLabels).IsSpot labels := by
  rintro ⟨value, -, hne, heq⟩
  exact hne heq

end MarkerLabels

namespace RateTable

/-- The price of a node that is keyed by its labels. -/
inductive PricedNode (c : RateCard) (labels : Labels) : Except PricingError NodeCharge → Prop
  | plain (hspot : ¬ (MarkerLabels.ofCard c).IsSpot labels)
      (hgpu : ¬ (MarkerLabels.ofCard c).HasGpu labels) :
      PricedNode c labels (.ok ⟨c.text .cpu, c.text .ram, "", ""⟩)
  | spot (hspot : (MarkerLabels.ofCard c).IsSpot labels)
      (hgpu : ¬ (MarkerLabels.ofCard c).HasGpu labels) :
      PricedNode c labels (.ok ⟨c.text .spotCpu, c.text .spotRam, "", ""⟩)
  | withGpu (hspot : ¬ (MarkerLabels.ofCard c).IsSpot labels)
      (hgpu : (MarkerLabels.ofCard c).HasGpu labels) :
      PricedNode c labels (.ok ⟨c.text .cpu, c.text .ram, c.text .gpu, "1"⟩)
  | missing (hspot : (MarkerLabels.ofCard c).IsSpot labels)
      (hgpu : (MarkerLabels.ofCard c).HasGpu labels) :
      PricedNode c labels (.error (.missingRate "default,spot,gpu"))

/-- The price by a key that has the features of a spot node or of a plain one, and a type of GPU,
just as the labels tell. -/
lemma pricedNode_of_priced {c : RateCard} {labels : Labels} {key : NodeKey}
    {result : Except PricingError NodeCharge}
    (hspot : (MarkerLabels.ofCard c).IsSpot labels ∧ Features.base key.features = "default,spot" ∨
      ¬ (MarkerLabels.ofCard c).IsSpot labels ∧ Features.base key.features = "default")
    (hgpu : key.gpuType ≠ "" ↔ (MarkerLabels.ofCard c).HasGpu labels) (h : Priced c key result) :
    PricedNode c labels result := by
  rcases hspot with ⟨hspot, hfeatures⟩ | ⟨hspot, hfeatures⟩
  · cases h with
    | plain hbase hnone => exact absurd (hbase.symm.trans hfeatures) (by decide)
    | spot hbase hnone => exact .spot hspot (mt hgpu.mpr (not_not.mpr hnone))
    | ofFeatures hbase hnone => exact absurd (hbase.symm.trans hfeatures) (by decide)
    | withGpu hbase hsome => exact absurd (hbase.symm.trans hfeatures) (by decide)
    | missing hbase hsome =>
      rw [hfeatures]
      exact .missing hspot (hgpu.mp hsome)
  · cases h with
    | plain hbase hnone => exact .plain hspot (mt hgpu.mpr (not_not.mpr hnone))
    | spot hbase hnone => exact absurd (hbase.symm.trans hfeatures) (by decide)
    | ofFeatures hbase hnone => exact absurd (hbase.symm.trans hfeatures) (by decide)
    | withGpu hbase hsome => exact .withGpu hspot (hgpu.mp hsome)
    | missing hbase hsome => exact absurd hfeatures hbase

lemma pricedNode_ofCard (c : RateCard) (labels : Labels) :
    PricedNode c labels ((ofCard c).price ((ofCard c).markers.key labels)) := by
  refine pricedNode_of_priced ?_ (MarkerLabels.gpuType_key _ labels) (priced_ofCard c _)
  by_cases hspot : (MarkerLabels.ofCard c).IsSpot labels
  · exact .inl ⟨hspot, by rw [MarkerLabels.features_key_of_isSpot _ labels hspot]; rfl⟩
  · exact .inr ⟨hspot, by rw [MarkerLabels.features_key_of_not_isSpot _ labels hspot]; rfl⟩

/-- The empty table has no row for any node. -/
lemma price_empty (key : NodeKey) :
    empty.price key =
      .error (.missingRate (if key.gpuType = "" then "default" else "default,gpu")) := by
  simp only [price]
  by_cases hgpu : key.gpuType = ""
  · simp only [hgpu, if_true]
    rfl
  · simp only [beq_eq_false_iff_ne.mpr hgpu, hgpu, if_false]
    rfl

end RateTable

/-! ### Providers -/

namespace Provider

/-- The states that a provider can come to, with the card of its latest rebuild if there was one.
The store is shared, so its card may change without the provider. -/
inductive History (clusterId : String) : Option RateCard → Provider → Prop
  | new (store : Store) : History clusterId none { clusterId, store }
  | shared {last : Option RateCard} {p : Provider} (store : Store)
      (history : History clusterId last p) :
      History clusterId last { p with store }
  | rebuilt {last : Option RateCard} {p : Provider} (history : History clusterId last p) :
      History clusterId (some p.card) p.rebuild
  | accepted {last : Option RateCard} {p after : Provider} {files files' : Files}
      {edit : RateCard → Except PricingError RateCard}
      {card : RateCard} (history : History clusterId last p)
      (h : p.update files edit = (.ok card, after, files')) :
      History clusterId (some card) after
  | refused {last : Option RateCard} {p after : Provider} {files files' : Files}
      {edit : RateCard → Except PricingError RateCard}
      {e : PricingError} (history : History clusterId last p)
      (h : p.update files edit = (.error e, after, files')) :
      History clusterId last after

section Prices

variable {clusterId : String} {last : Option RateCard} {p after : Provider} {files files' : Files}
  {edit : RateCard → Except PricingError RateCard} {card : RateCard} {e : PricingError}

/-- An accepted update builds the table from the card that it gives. -/
lemma table_of_accepted (h : p.update files edit = (.ok card, after, files')) :
    after.table = .ofCard card := by
  have hout := p.store.update_outcome files edit
  rw [update] at h
  generalize p.store.update files edit = updated at h hout
  obtain ⟨result, store, left⟩ := updated
  cases hout with
  | accepted card left hedit hkeep hread =>
    cases h
    rfl
  | refused e hedit => cases h
  | notOpened card place error left hedit hkeep hdevice hfiles => cases h
  | brokenOff card path fault left hedit hpath hkeep hfault hfills => cases h

lemma table_of_refused (h : p.update files edit = (.error e, after, files')) :
    after.table = p.table := by
  rw [update] at h
  split at h
  · cases h
    rfl
  · cases h

lemma History.table (history : History clusterId last p) : p.table = last.elim .empty .ofCard := by
  induction history with
  | new store => rfl
  | shared store history ih => exact ih
  | rebuilt history ih => rfl
  | accepted history h ih => exact table_of_accepted h
  | refused history h ih => exact (table_of_refused h).trans ih

/-- The provider prices nodes by this card. -/
structure PricesBy (p : Provider) (c : RateCard) : Prop where
  rows : p.table.rows.entries =
    [("default", ⟨c.text .cpu, c.text .ram, ""⟩),
      ("default,spot", ⟨c.text .spotCpu, c.text .spotRam, ""⟩),
    ("default,gpu", ⟨c.text .cpu, c.text .ram, c.text .gpu⟩)]
  /-- Keys may be of any origin. -/
  key : ∀ key, RateTable.Priced c key (p.nodePrice key)
  node : ∀ labels, RateTable.PricedNode c labels (p.nodePrice (p.nodeKey labels))

/-- The provider has no prices yet. -/
structure PricesNothing (p : Provider) : Prop where
  rows : p.table.rows.entries = []
  key : ∀ key,
    p.nodePrice key = .error (.missingRate (if key.gpuType = "" then "default" else "default,gpu"))
  node : ∀ labels, (p.nodeKey labels).features = "default"

lemma pricesBy (h : p.table = .ofCard card) : p.PricesBy card := by
  constructor
  · rw [h]
    rfl
  · intro key
    rw [nodePrice, h]
    exact RateTable.priced_ofCard card key
  · intro labels
    rw [nodePrice, nodeKey, h]
    exact RateTable.pricedNode_ofCard card labels

lemma pricesNothing (h : p.table = .empty) : p.PricesNothing := by
  constructor
  · rw [h]
    rfl
  · intro key
    rw [nodePrice, h]
    exact RateTable.price_empty key
  · intro labels
    rw [nodeKey, h]
    exact MarkerLabels.features_key_of_not_isSpot _ labels (MarkerLabels.not_isSpot_blank labels)

/-- From its latest rebuild on a provider prices every node by the card of that time, whatever has
become of the card since, and before its first rebuild it prices none. -/
theorem prices_of_history :
    (∀ p : Provider, p.rebuild.PricesBy p.card) ∧
    ∀ {clusterId : String} {last : Option RateCard} {p : Provider}, History clusterId last p →
      last.elim p.PricesNothing p.PricesBy := by
  refine ⟨fun p => pricesBy rfl, ?_⟩
  intro clusterId last p history
  have htable := history.table
  cases last with
  | none => exact pricesNothing htable
  | some card => exact pricesBy htable

/-- The card has been changed since the table was built, so the price is still the one of before;
where one label tells spot and GPU nodes, each spot node is in the gap. -/
theorem prices_of_history_stale :
    let card :=
      ((RateCard.default.put .spotLabel "kind").put .spotLabelValue "spot").put .gpuLabel "kind"
    let labels : Labels := .ofList [("kind", "spot")]
    let p : Provider := { clusterId := "own", store := .inMemory card }
    p.nodePrice ⟨"unknown", "t4"⟩ = .error (.missingRate "default,gpu") ∧
    ∃ q : Provider, History "own" (some card) q ∧ q.card = .default ∧ q.PricesBy card ∧
      q.nodePrice (q.nodeKey labels) = .error (.missingRate "default,spot,gpu") := by
  intro card labels p
  obtain ⟨-, later⟩ := prices_of_history
  have fresh : History "own" none p := .new (.inMemory card)
  have stale := fresh.rebuilt.shared (.inMemory .default)
  have prices := later stale
  refine ⟨(later fresh).key ⟨"unknown", "t4"⟩, _, stale, rfl, prices, ?_⟩
  have spot : (MarkerLabels.ofCard card).IsSpot labels := ⟨"spot", rfl, by decide, rfl⟩
  have gpu : (MarkerLabels.ofCard card).HasGpu labels := ⟨"spot", rfl, by decide⟩
  have node := prices.node labels
  generalize Provider.nodePrice _ _ = result at node ⊢
  cases node with
  | missing hspot hgpu => rfl
  | plain hspot hgpu => exact absurd spot hspot
  | spot hspot hgpu => exact absurd gpu hgpu
  | withGpu hspot hgpu => exact absurd spot hspot

end Prices

end Provider

end ClusterCost
