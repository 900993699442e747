import ClusterCost.Proofs.Rates.Import
import ClusterCost.Proofs.Service.Requests

/-!
# From one service to another

What a service answers when it is asked for its rate card, or holds in its pricing file, can be
posted to another service as an update, which then has this card (`updateCard_exported`).
-/

namespace ClusterCost.Service

/-- The texts in which a card leaves a service: as the answer to a request for it, and as the
content of the file in which it is kept. -/
inductive Exported (c : RateCard) : Bytes → Prop
  | answer (s : Service) (r : Http.Request) (hmethod : r.method = "GET")
      (hpath : r.path = "/pricing/config")
      (hcard : s.provider.card = c) : Exported c (s.respond r).1.body
  | file {store : Store} {files : Files} {path : String} {content : Bytes}
      (hpath : store.path = some path)
      (hkept : (store.keep c files).1 = .ok ())
      (hread : (store.keep c files).2.read path = .ok content) : Exported c content

/-- Both are texts of the card's fields. -/
lemma Exported.text {c : RateCard} {bytes : Bytes} (h : Exported c bytes) :
    Json.Text bytes (.object c.members) := by
  cases h with
  | answer s r hmethod hpath hcard =>
    rw [respond_rateCard s hmethod hpath, hcard]
    exact c.text_toJson_compact
  | file hpath hkept hread =>
    rw [Store.read_of_keep_ok hkept _ hpath] at hread
    cases hread
    exact c.text_toJson

/-- The card of one service can be imported into another, whatever card that has: if each of its
texts would be accepted and the file of the other service can be written, the other service has this
card, in the file too, and prices by it. -/
theorem updateCard_exported {s : Service} {c : RateCard} (hc : c.Acceptable)
    (hwritable : s.provider.store.Writable s.files)
    {body : CardUpdate.Body} (hbody : Exported c body.bytes) (hending : body.ending = .finished)
    (updateType : String) :
    (s.updateCard body updateType).1 = .ok c ∧
    (s.updateCard body updateType).2.provider.card = c ∧
    (s.updateCard body updateType).2.provider.table = .ofCard c ∧
    ∀ path, s.provider.store.path = some path →
      (s.updateCard body updateType).2.files.read path = .ok c.toJson.pretty := by
  have hedit : Provider.editOfBody body s.provider.card = .ok c :=
    Provider.editOfBody_written hc hending hbody.text s.provider.card
  have hout := Store.update_outcome s.provider.store s.files (Provider.editOfBody body)
  rw [updateCard, changeCard, Provider.update]
  generalize s.provider.store.update s.files (Provider.editOfBody body) = updated at hout ⊢
  obtain ⟨result, store, files⟩ := updated
  cases hout with
  | refused e h =>
    rw [show s.provider.store.card = s.provider.card from rfl, hedit] at h
    cases h
  | notOpened card place error _ h hkeep => cases (hwritable.keep card).symm.trans hkeep
  | brokenOff card path fault _ h hpath hkeep => cases (hwritable.keep card).symm.trans hkeep
  | accepted card _ h hkeep hread =>
    obtain rfl : c = card := by
      rw [show s.provider.store.card = s.provider.card from rfl, hedit] at h
      exact Except.ok.inj h
    simp only [provider_measure, files_measure]
    exact ⟨trivial, rfl, rfl, hread⟩

/-- A card with texts that need escapes goes over to a service with the default card. -/
theorem updateCard_exported_escapes :
    let c : RateCard :=
      ⟨fun f => match f.kind with | .text => "\"é\\\n\x01\"" | .rate => "" | .flag => "true"⟩
    let s : Service :=
      { clusterId := "one", files := .empty "/", provider := ⟨"one", .inMemory .default, .empty⟩ }
    let other : Service :=
      { clusterId := "two", files := .empty "/", provider := ⟨"two", .inMemory c, .empty⟩ }
    let body : CardUpdate.Body :=
      ⟨[(other.respond ⟨"GET", "/pricing/config", []⟩).1.body], .finished⟩
    (s.updateCard body "import").1 = .ok c ∧ (s.updateCard body "import").2.provider.card = c := by
  intro c s other body
  have hc : c.Acceptable := by
    constructor
    · intro f hf
      exact .inl (by simp only [c, hf])
    · intro f hf
      exact .inl (by simp only [c, hf])
  have hbytes : body.bytes = (other.respond ⟨"GET", "/pricing/config", []⟩).1.body :=
    List.append_nil _
  have hbody : Exported c body.bytes := by
    rw [hbytes]
    exact .answer other _ rfl (by decide) rfl
  have hwritable : s.provider.store.Writable s.files := ⟨rfl, by simp [s, Store.inMemory]⟩
  obtain ⟨hresult, hcard, -⟩ := updateCard_exported hc hwritable hbody rfl "import"
  exact ⟨hresult, hcard⟩

end ClusterCost.Service
