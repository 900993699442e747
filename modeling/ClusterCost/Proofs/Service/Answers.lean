import ClusterCost.Proofs.Rates.Loading
import ClusterCost.Proofs.Service.Wiring

/-!
# The answers to requests

The answer to a posted update tells exactly what has become of it (`Faithful`): the service has the
new card if and only if the status is 200, and with any other status the card and the rate table are
as they were. So are the files, unless the write of the card's file breaks off. What has been
committed is what is answered from then on, until the next commit (`quotes_of_meanwhile`). No other
request changes anything.
-/

namespace ClusterCost.Service

open Refresher (Taken)

/-! ### The status of an answer -/

section Status

variable {s : Service} {r : Http.Request} {updateType : String}

/-- The status of the answer to a posted update, and what has become of the update. -/
structure Faithful (s : Service) (r : Http.Request) (answer : Http.Response) (after : Service) :
    Prop where
  committed : answer.status = 200 ↔ ∃ card, Committed s after card
  card : ∀ card, Committed s after card → answer = .json 200 card.toJson
  notKept : answer.status = 500 ↔ ∃ updateType card e, Delivers r updateType ∧
    Provider.editOfBody { chunks := [r.body] } s.provider.card = .ok card ∧
    (s.provider.store.keep card s.files).1 = .error e
  refused : answer.status = 400 ↔ Http.updateType r.query = .error .duplicateType ∨
    ∃ updateType e, Delivers r updateType ∧
      Provider.editOfBody { chunks := [r.body] } s.provider.card = .error e
  tooLong : answer.status = 413 ↔
    (∃ updateType, Http.updateType r.query = .ok updateType) ∧ bodyLimit < r.body.length
  preserved : answer.status ≠ 200 → s.WritesWhole → Preserved s after
  /-- Only with 500 the file may be lost, and this only because its write broke off. -/
  spoiled : answer.status ≠ 200 → Preserved s after ∨
    answer.status = 500 ∧ ∃ path fault card, s.provider.store.path = some path ∧
      s.files.nextFault = some fault ∧
      Provider.editOfBody { chunks := [r.body] } s.provider.card = .ok card ∧
      Spoiled s after path (fault.left card.toJson.pretty)

lemma Faithful.not_committed {answer : Http.Response} {after : Service}
    (h : Faithful s r answer after) (hstatus : answer.status ≠ 200) (card : RateCard) :
    ¬ Committed s after card :=
  fun hcommitted => hstatus (h.committed.mpr ⟨card, hcommitted⟩)

lemma Faithful.provider {answer : Http.Response} {after : Service} (h : Faithful s r answer after)
    (hstatus : answer.status ≠ 200) : after.provider = s.provider := by
  obtain hpreserved | ⟨-, path, fault, card, -, -, -, hspoiled⟩ := h.spoiled hstatus
  · exact hpreserved.provider
  · exact hspoiled.provider

/-- An update that is not delivered has one of two faults. -/
lemma faithful_of_receive (hmethod : r.method = "POST") (hpath : r.path = "/pricing/config")
    (h : ∀ updateType, ¬ Delivers r updateType) : Faithful s r (s.receive r).1 (s.receive r).2 := by
  have hnone : ∀ card, ¬ Committed s s card := not_committed_of_rebuilds rfl
  cases hquery : Http.updateType r.query with
  | error fault =>
    cases fault
    rw [receive_of_duplicate s hquery]
    constructor <;> simp [Http.Response.text, hnone, h, hquery, Preserved.refl]
  | ok updateType =>
    by_cases hlong : bodyLimit < r.body.length
    · rw [receive_of_tooLong s hquery hlong]
      constructor <;> simp [Http.Response.text, hnone, h, hquery, hlong, Preserved.refl]
    · exact absurd ⟨hmethod, hpath, hquery, Nat.le_of_not_lt hlong⟩ (h updateType)

lemma faithful_of_delivers (h : s.providerInMetrics = true) (delivers : Delivers r updateType) :
    Faithful s r (s.post updateType r.body).1 (s.post updateType r.body).2 := by
  have hout := post_outcome s h updateType r.body
  have hshort := Nat.not_lt.mpr delivers.length
  have hquery := delivers.query
  generalize (s.post updateType r.body).1 = answer at hout ⊢
  generalize (s.post updateType r.body).2 = after at hout ⊢
  cases hout with
  | committed card _ hedit hkeep hafter =>
    have hcard : ∀ other, Committed s after other → other = card := by
      intro other hother
      exact congrArg Store.card (hother.store.symm.trans hafter.store)
    constructor
    · exact ⟨fun _ => ⟨card, hafter⟩, fun _ => rfl⟩
    · intro other hother
      rw [hcard other hother]
    · simp [Http.Response.json, hedit, hkeep]
    · simp [Http.Response.json, hedit, hquery]
    · simp [Http.Response.json, hshort]
    · exact fun h => absurd rfl h
    · exact fun h => absurd rfl h
  | refused e _ hedit hafter =>
    have hnone := not_committed_of_rebuilds hafter.rebuilds
    constructor
    · simp [Http.Response.error, Http.Response.json, hnone]
    · exact fun card hcard => absurd hcard (hnone card)
    · simp [Http.Response.error, Http.Response.json, hedit]
    · exact ⟨fun _ => .inr ⟨updateType, e, delivers, hedit⟩, fun _ => rfl⟩
    · simp [Http.Response.error, Http.Response.json, hshort]
    · exact fun _ _ => hafter
    · exact fun _ => .inl hafter
  | notOpened card place error _ hedit hkeep hdevice hafter =>
    have hnone := not_committed_of_rebuilds hafter.rebuilds
    constructor
    · simp [Http.Response.error, Http.Response.json, hnone]
    · exact fun card hcard => absurd hcard (hnone card)
    · exact ⟨fun _ => ⟨updateType, card, _, delivers, hedit, hkeep⟩, fun _ => rfl⟩
    · simp [Http.Response.error, Http.Response.json, hedit, hquery]
    · simp [Http.Response.error, Http.Response.json, hshort]
    · exact fun _ _ => hafter
    · exact fun _ => .inl hafter
  | brokenOff card path fault _ hedit hpath hkeep hfault hafter =>
    have hnone := not_committed_of_rebuilds hafter.rebuilds
    constructor
    · simp [Http.Response.error, Http.Response.json, hnone]
    · exact fun card hcard => absurd hcard (hnone card)
    · exact ⟨fun _ => ⟨updateType, card, _, delivers, hedit, hkeep⟩, fun _ => rfl⟩
    · simp [Http.Response.error, Http.Response.json, hedit, hquery]
    · simp [Http.Response.error, Http.Response.json, hshort]
    · exact fun _ hwhole => absurd (hfault.symm.trans (hwhole (by simp [hpath]))) (by simp)
    · exact fun _ => .inr ⟨rfl, path, fault, card, hpath, hfault, hedit, hafter⟩

/-- The answer to every posted update is faithful. -/
lemma faithful_of_post (h : s.providerInMetrics = true) (hmethod : r.method = "POST")
    (hpath : r.path = "/pricing/config") : Faithful s r (s.respond r).1 (s.respond r).2 := by
  by_cases hdelivers : ∃ updateType, Delivers r updateType
  · obtain ⟨updateType, delivers⟩ := hdelivers
    rw [delivers.respond s]
    exact faithful_of_delivers h delivers
  · rw [respond_post s hmethod hpath]
    exact faithful_of_receive hmethod hpath (not_exists.mp hdelivers)

end Status

/-! ### Between two commits -/

section Meanwhile

variable {begin s : Service} {card : RateCard}

/-- What a service may go through without a commit: requests and updates that commit no card, steps
of its maps, time that passes, and changes of the backend, of the files and of its readiness. -/
inductive Meanwhile (begin : Service) : Service → Prop
  | start : Meanwhile begin begin
  | request {s : Service} (r : Http.Request) (meanwhile : Meanwhile begin s)
      (h : ∀ card, ¬ Committed s (s.respond r).2 card) :
      Meanwhile begin (s.respond r).2
  | update {s : Service} (r : CardRequest) (meanwhile : Meanwhile begin s)
      (h : ∀ card, ¬ Committed s (s.request r).2 card) :
      Meanwhile begin (s.request r).2
  | refresh {s : Service} (ref : MapRef) (step : Refresher.Step) (meanwhile : Meanwhile begin s) :
      Meanwhile begin (s.stepMap ref step)
  | advance {s : Service} (milliseconds : Nat) (meanwhile : Meanwhile begin s) :
      Meanwhile begin (s.advance milliseconds)
  | environment {s : Service} (supply : Supply) (files : Files) (ready : Bool)
      (meanwhile : Meanwhile begin s) :
      Meanwhile begin { s with supply, files, health := s.health.setReady ready }

/-- A request that commits no card leaves the provider as it is. -/
lemma sameProvider_respond (h : s.providerInMetrics = true) (r : Http.Request)
    (hnone : ∀ card, ¬ Committed s (s.respond r).2 card) : SameProvider s (s.respond r).2 := by
  by_cases hdelivers : ∃ updateType, Delivers r updateType
  · obtain ⟨updateType, delivers⟩ := hdelivers
    have faithful := faithful_of_post h delivers.method delivers.path
    have hstatus : (s.respond r).1.status ≠ 200 :=
      fun h200 => not_exists.mpr hnone (faithful.committed.mp h200)
    exact ⟨faithful.provider hstatus, inMetrics_respond s r⟩
  · rw [respond_of_not_delivers s (not_exists.mp hdelivers)]
    exact .refl s

/-- An update that commits no card leaves the provider as it is. -/
lemma sameProvider_request (h : s.providerInMetrics = true) (r : CardRequest)
    (hnone : ∀ card, ¬ Committed s (s.request r).2 card) : SameProvider s (s.request r).2 := by
  have hout := changeCard_outcome s h r.edit r.event
  rw [request_eq] at hnone ⊢
  have hinMetrics := inMetrics_changeCard s r.edit r.event
  generalize (s.changeCard r.edit r.event).1 = result at hout
  generalize (s.changeCard r.edit r.event).2 = after at hout hnone hinMetrics ⊢
  cases hout with
  | committed card _ _ _ hafter => exact absurd hafter (hnone card)
  | refused e _ _ hafter => exact ⟨hafter.provider, hinMetrics⟩
  | notOpened card place error _ _ _ _ hafter => exact ⟨hafter.provider, hinMetrics⟩
  | brokenOff card path fault _ _ _ _ _ hafter => exact ⟨hafter.provider, hinMetrics⟩

lemma sameProvider_of_meanwhile (h : begin.providerInMetrics = true)
    (meanwhile : Meanwhile begin s) : SameProvider begin s := by
  induction meanwhile with
  | start => exact .refl begin
  | request r meanwhile hnone ih =>
    exact ih.trans (sameProvider_respond (ih.inMetrics.trans h) r hnone)
  | update r meanwhile hnone ih =>
    exact ih.trans (sameProvider_request (ih.inMetrics.trans h) r hnone)
  | refresh ref step meanwhile ih => exact ih.trans (sameProvider_stepMap _ ref step)
  | advance milliseconds meanwhile ih => exact ih.trans (sameProvider_advance _ milliseconds)
  | environment supply files ready meanwhile ih => exact ih.trans ⟨rfl, rfl⟩

/-- The rows of the table that a card makes, as they are answered. -/
def priceRows (c : RateCard) : Json.Value :=
  .object [
    ("default",
     .object [("CPU", .text (c.text .cpu)), ("RAM", .text (c.text .ram)), ("GPU", .text "")]),
    ("default,spot",
     .object
       [("CPU", .text (c.text .spotCpu)), ("RAM", .text (c.text .spotRam)), ("GPU", .text "")]),
    ("default,gpu",
     .object
       [("CPU", .text (c.text .cpu)), ("RAM", .text (c.text .ram)), ("GPU", .text (c.text .gpu))])]

/-- Requests for the rate card and for the prices of nodes are answered with this card. -/
structure Quotes (s : Service) (card : RateCard) : Prop where
  rateCard : ∀ r : Http.Request, r.method = "GET" → r.path = "/pricing/config" →
    (s.respond r).1 = .json 200 card.toJson
  nodePrices : ∀ r : Http.Request, r.method = "GET" → r.path = "/pricing/nodes" →
    (s.respond r).1 = .json 200 (priceRows card)

lemma quotes_of_built (hcard : s.provider.card = card) (htable : s.provider.table = .ofCard card) :
    Quotes s card := by
  constructor
  · intro r hmethod hpath
    rw [respond_rateCard s hmethod hpath, hcard]
  · intro r hmethod hpath
    have hroute : Http.Route.ofPath? r.path = some .nodePrices := by
      rw [hpath]
      decide
    rw [respond_read s hmethod hroute, read, htable]
    rfl

/-- What was committed is what is answered, until the next commit. -/
lemma quotes_of_meanwhile (h : begin.providerInMetrics = true) {r : Http.Request}
    (hcommitted : Committed begin (begin.respond r).2 card)
    (meanwhile : Meanwhile (begin.respond r).2 s) : Quotes s card := by
  have same := sameProvider_of_meanwhile ((inMetrics_respond begin r).trans h) meanwhile
  apply quotes_of_built
  · rw [same.provider, Provider.card, hcommitted.store]
  · rw [same.provider, hcommitted.table]

end Meanwhile

/-! ### All answers -/

/-- The answer to a posted update says whether the update was committed, and if so its card is what
is answered until the next commit. A request that delivers no update changes nothing at all, and
none touches the maps or the health. A service that was launched keeps its provider in the metrics,
and answers with its current card and with the rows that this makes. -/
theorem faithful_answers (s : Service) (r : Http.Request) :
    (s.providerInMetrics = true → r.method = "POST" → r.path = "/pricing/config" →
      Faithful s r (s.respond r).1 (s.respond r).2 ∧
      ∀ card, Committed s (s.respond r).2 card →
        ∀ later, Meanwhile (s.respond r).2 later → Quotes later card) ∧
    ((∀ updateType, ¬ Delivers r updateType) → (s.respond r).2 = s) ∧
    SameMaps s (s.respond r).2 ∧
    ∀ {settings : Settings} {files : Files} {declared : Bool} {taken : List Taken},
      Serving settings files declared taken s →
        s.providerInMetrics = true ∧ Quotes s s.provider.card := by
  refine ⟨?_, respond_of_not_delivers s, sameMaps_respond s r, ?_⟩
  · intro h hmethod hpath
    exact ⟨faithful_of_post h hmethod hpath,
      fun card hcommitted later meanwhile => quotes_of_meanwhile h hcommitted meanwhile⟩
  · intro settings files declared taken serving
    have wired := wired_of_serving serving
    exact ⟨wired.inMetrics, quotes_of_built rfl wired.table⟩

/-- After an update was accepted another one is refused, and some time passes; the answers are
still those of the first. -/
theorem faithful_answers_refused_later :
    let settings : Settings := .default .empty
    let accepted : Http.Request :=
      ⟨"POST", "/pricing/config?type=manual", Utf8.encode "\x7b\"CPU\":\" 0.07\"\x7d"⟩
    let refused : Http.Request :=
      ⟨"POST", "/pricing/config", Utf8.encode "\x7b\"RAM\":\"1\",\"CPU\":\"-0.07\"\x7d"⟩
    let other : Http.Request := ⟨"DELETE", "/pricing/config", []⟩
    ∃ s card, Serving settings (.empty "/") true [] s ∧
      (s.respond accepted).1 = .json 200 card.toJson ∧
      Quotes (((s.respond accepted).2.respond refused).2.advance 1000) card ∧
      (s.respond other).2 = s := by
  intro settings accepted refused other
  have serving := (serving_default settings (.empty "/") 0 rfl rfl rfl).ready
  obtain ⟨posted, -, -, launched⟩ := faithful_answers _ accepted
  obtain ⟨faithful, hlater⟩ := posted (launched serving).1 rfl (by decide)
  obtain ⟨card, hcommitted⟩ := faithful.committed.mp (by decide +kernel)
  obtain ⟨posted', -, -, launched'⟩ := faithful_answers _ refused
  obtain ⟨faithful', -⟩ := posted' (launched' (serving.request accepted)).1 rfl (by decide)
  have hnone := faithful'.not_committed (by decide +kernel)
  refine ⟨_, card, serving, faithful.card card hcommitted, ?_,
    (faithful_answers _ other).2.1 fun updateType delivers => ?_⟩
  · exact hlater card hcommitted _ (.advance 1000 (.request refused .start hnone))
  · exact absurd delivers.method (by decide)

/-- A posted update on a full device is answered with 500, and the file is empty. -/
lemma post_fullDevice {s : Service} (hpath : s.provider.store.path = some "/d/p")
    (hfiles : s.files = .fullDevice) {r : Http.Request} {updateType : String}
    (delivers : Delivers r updateType) {card : RateCard}
    (h : Provider.editOfBody { chunks := [r.body] } s.provider.card = .ok card) :
    (s.respond r).1.status = 500 ∧ (s.respond r).2.files.read "/d/p" = .ok [] := by
  obtain ⟨hresult, hread⟩ := changeCard_fullDevice hpath hfiles h (.appliedUpdate updateType)
  rw [delivers.respond s, post, updateCard]
  generalize s.changeCard _ _ = changed at hresult hread ⊢
  obtain ⟨result, after⟩ := changed
  simp only at hresult hread
  subst hresult
  exact ⟨rfl, hread⟩

/-- A service is launched with a file on a full device. -/
lemma serving_fullDevice {settings : Settings} (hcard : settings.cardPath = some "/d/p")
    (hendpoint : settings.endpoint = (Settings.default .empty).endpoint)
    (hbackend : settings.backend = .direct) :
    ∃ s, Serving settings .fullDevice true [] s ∧ s.files = .fullDevice ∧
      s.provider.store = ⟨some "/d/p", .default⟩ := by
  have hstore : Run.openStore settings .fullDevice =
      .ok (⟨some "/d/p", .default⟩, .fullDevice, [.loadedCard "/d/p"]) := by
    simp only [Run.openStore, hcard, Store.load_fullDevice]
    rfl
  obtain ⟨endpoint, hlaunch⟩ := launch_of_openStore 0 hstore hendpoint hbackend
  have same := sameProvider_placeMap ((Run.prepared settings ⟨some "/d/p", .default⟩ .fullDevice
    [.loadedCard "/d/p"] 0).record (.started settings.clusterId Run.version settings.backendName))
    settings.mapPlan
  have hprovider := same.provider.trans (provider_prepared settings _ _ _ 0)
  exact ⟨_, ((Serving.launch 0 hlaunch).environment {} .fullDevice).ready, rfl,
    congrArg Provider.store hprovider⟩

/-- The device is full when a service that was launched with a file is posted an update. -/
theorem post_loses_file :
    let settings : Settings := { Settings.default .empty with cardPath := some "/d/p" }
    let r : Http.Request := ⟨"POST", "/pricing/config", Utf8.encode "\x7b\"CPU\":\"1\"\x7d"⟩
    ∃ s, Serving settings .fullDevice true [] s ∧ s.files.read "/d/p" = .ok [0x7B, 0x7D] ∧
      (s.respond r).1.status = 500 ∧ (s.respond r).2.files.read "/d/p" = .ok [] ∧
      ¬ Preserved s (s.respond r).2 := by
  intro settings r
  have delivers : Delivers r "" := ⟨rfl, by decide, by decide, by decide⟩
  have hsome : (Provider.editOfBody { chunks := [r.body] } .default).toOption.isSome = true := by
    decide +kernel
  obtain ⟨card, hcard⟩ := Option.isSome_iff_exists.mp hsome
  obtain ⟨s, serving, hfiles, hstore⟩ := @serving_fullDevice settings rfl rfl rfl
  have hedit : Provider.editOfBody { chunks := [r.body] } s.provider.card = .ok card := by
    rw [Provider.card, hstore]
    exact toOption_eq_some_iff.mp hcard
  obtain ⟨hstatus, hafter⟩ := post_fullDevice (by rw [hstore]) hfiles delivers hedit
  have hread : s.files.read "/d/p" = .ok [0x7B, 0x7D] := by
    rw [hfiles]
    exact Files.read_fullDevice
  refine ⟨s, serving, hread, hstatus, hafter, fun hpreserved => ?_⟩
  cases hafter.symm.trans (hpreserved.file "/d/p" _ hread)

end ClusterCost.Service
