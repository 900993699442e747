import ClusterCost.Http.Api
import ClusterCost.Proofs.Http.Route
import ClusterCost.Proofs.Service.Transaction

/-!
# What a request can do

A request changes the service only if it delivers an update of the rate card to the provider
(`respond_of_not_delivers`). Then the answer tells what has become of the update (`post_outcome`):
its status is 200 if the update was committed, 500 if the new card could not be kept, and 400 if the
update was refused for any other reason. With 500 the file is as it was if it could not be opened;
if its write broke off, it is lost.
-/

namespace ClusterCost.Service

/-! ### Delivering an update -/

/-- The request is a post of an update that gets as far as the provider: its query gives one type,
or none, and its body is not too long. -/
structure Delivers (r : Http.Request) (updateType : String) : Prop where
  method : r.method = "POST"
  path : r.path = "/pricing/config"
  query : Http.updateType r.query = .ok updateType
  length : r.body.length ≤ bodyLimit

section Respond

variable (s : Service) {r : Http.Request} {updateType : String}

lemma respond_post (hmethod : r.method = "POST") (hpath : r.path = "/pricing/config") :
    s.respond r = s.receive r := by
  have hroute : Http.Route.ofPath? r.path = some .rateCard :=
    Http.Route.ofPath?_eq_rateCard.mpr hpath
  simp [respond, hroute, hmethod, Http.Route.allows]

lemma respond_read {route : Http.Route} (hmethod : r.method = "GET")
    (hroute : Http.Route.ofPath? r.path = some route) : s.respond r = (s.read route, s) := by
  simp [respond, hroute, hmethod, Http.Route.allows]

lemma respond_rateCard (hmethod : r.method = "GET") (hpath : r.path = "/pricing/config") :
    s.respond r = (.json 200 s.provider.card.toJson, s) :=
  respond_read s hmethod (Http.Route.ofPath?_eq_rateCard.mpr hpath)

lemma respond_of_not_post (h : ¬ (r.method = "POST" ∧ r.path = "/pricing/config")) :
    (s.respond r).2 = s := by
  rw [respond]
  split
  · rfl
  · rename_i route hroute
    split_ifs with hallows hpost hhead
    · rfl
    · have hmethod : r.method = "POST" := by simpa using hpost
      have hcard : route = .rateCard := by simpa [Http.Route.allows, hmethod] using hallows
      exact absurd ⟨hmethod, Http.Route.ofPath?_eq_rateCard.mp (hcard ▸ hroute)⟩ h
    · rfl
    · rfl

lemma receive_of_duplicate (h : Http.updateType r.query = .error .duplicateType) :
    s.receive r = (.text 400 "Failed to deserialize query string: duplicate field `type`", s) := by
  simp only [receive, h]

lemma receive_of_tooLong (hquery : Http.updateType r.query = .ok updateType)
    (h : bodyLimit < r.body.length) :
    s.receive r = (.text 413 "Failed to buffer the request body: length limit exceeded", s) := by
  simp only [receive, hquery, if_pos h]

lemma Delivers.respond (h : Delivers r updateType) : s.respond r = s.post updateType r.body := by
  rw [respond_post s h.method h.path]
  simp only [receive, h.query, if_neg (Nat.not_lt.mpr h.length)]

/-- A request that delivers no update leaves everything as it is. -/
theorem respond_of_not_delivers (h : ∀ updateType, ¬ Delivers r updateType) :
    (s.respond r).2 = s := by
  by_cases hpost : r.method = "POST" ∧ r.path = "/pricing/config"
  · rw [respond_post s hpost.1 hpost.2]
    cases hquery : Http.updateType r.query with
    | error fault =>
      cases fault
      rw [receive_of_duplicate s hquery]
    | ok updateType =>
      by_cases hlong : bodyLimit < r.body.length
      · rw [receive_of_tooLong s hquery hlong]
      · exact absurd ⟨hpost.1, hpost.2, hquery, Nat.le_of_not_lt hlong⟩ (h updateType)
  · exact respond_of_not_post s hpost

/-- After a posted update the service is as the change of its card leaves it, with a
line more in the log. -/
lemma post_eq_record (updateType : String) (body : Bytes) :
    ∃ entry, (s.post updateType body).2 =
      (s.changeCard (Provider.editOfBody { chunks := [body] }) (.appliedUpdate updateType)).2.record
        entry := by
  rw [post, updateCard]
  split <;> rename_i hchanged <;> rw [hchanged] <;> exact ⟨_, rfl⟩

/-- What holds of a service, and also after any change of its card and with any line more in the
log, holds after every request. -/
lemma respond_keeps {P : Service → Prop} (hs : P s)
    (hchange : ∀ edit event entry, P ((s.changeCard edit event).2.record entry))
    (r : Http.Request) : P (s.respond r).2 := by
  by_cases h : ∃ updateType, Delivers r updateType
  · obtain ⟨updateType, delivers⟩ := h
    obtain ⟨entry, hpost⟩ := post_eq_record s updateType r.body
    rw [delivers.respond s, hpost]
    exact hchange _ _ entry
  · rw [respond_of_not_delivers s (not_exists.mp h)]
    exact hs

end Respond

/-! ### What has become of a posted update -/

lemma refusalStatus_of_refusesEdit {e : PricingError} (h : e.RefusesEdit) :
    refusalStatus e = 400 := by
  cases h <;> rfl

/-- Card, table and files are as they were. New folders may have been made on the way to a file that
could then not be opened. -/
structure Preserved (s after : Service) : Prop where
  provider : after.provider = s.provider
  rebuilds : after.metrics.rebuilds = s.metrics.rebuilds
  contents : ∀ trail, after.files.content? trail = s.files.content? trail
  file : ∀ path content, s.files.read path = .ok content → after.files.read path = .ok content

/-- Where the table has not been rebuilt, no card was committed. -/
lemma not_committed_of_rebuilds {s after : Service}
    (h : after.metrics.rebuilds = s.metrics.rebuilds) (card : RateCard) :
    ¬ Committed s after card := by
  intro hcommitted
  have hrebuilds := hcommitted.rebuilds
  rw [h] at hrebuilds
  exact Nat.ne_of_lt (Nat.lt_succ_self _) hrebuilds

lemma Preserved.refl (s : Service) : Preserved s s := ⟨rfl, rfl, fun _ => rfl, fun _ _ h => h⟩

/-- Card and table are as they were, but the file has lost its content for this one. -/
structure Spoiled (s after : Service) (path : String) (left : Bytes) : Prop where
  provider : after.provider = s.provider
  rebuilds : after.metrics.rebuilds = s.metrics.rebuilds
  fills : Files.Fills s.files after.files path left

/-- The answer to an update that was delivered, and the service after it. -/
inductive PostOutcome (s : Service) (body : Bytes) : Http.Response → Service → Prop
  | committed (card : RateCard) (after : Service)
      (h : Provider.editOfBody { chunks := [body] } s.provider.card = .ok card)
      (hkeep : (s.provider.store.keep card s.files).1 = .ok ()) (hafter : Committed s after card) :
      PostOutcome s body (.json 200 card.toJson) after
  | refused (e : PricingError) (after : Service)
      (h : Provider.editOfBody { chunks := [body] } s.provider.card = .error e)
      (hafter : Preserved s after) : PostOutcome s body (.error 400 e.message) after
  | notOpened (card : RateCard) (place : String) (error : FileError) (after : Service)
      (h : Provider.editOfBody { chunks := [body] } s.provider.card = .ok card)
      (hkeep : (s.provider.store.keep card s.files).1 = .error (.write place error))
      (hdevice : ∀ cause, error ≠ .device cause) (hafter : Preserved s after) :
      PostOutcome s body (.error 500 (ConfigError.write place error).message) after
  | brokenOff (card : RateCard) (path : String) (fault : WriteFault) (after : Service)
      (h : Provider.editOfBody { chunks := [body] } s.provider.card = .ok card)
      (hpath : s.provider.store.path = some path)
      (hkeep : (s.provider.store.keep card s.files).1 = .error (.write path (.device fault.cause)))
      (hfault : s.files.nextFault = some fault)
      (hafter : Spoiled s after path (fault.left card.toJson.pretty)) :
      PostOutcome s body (.error 500 (ConfigError.write path (.device fault.cause)).message) after

theorem post_outcome (s : Service) (h : s.providerInMetrics = true) (updateType : String)
    (body : Bytes) : PostOutcome s body (s.post updateType body).1 (s.post updateType body).2 := by
  have hout := changeCard_outcome s h (Provider.editOfBody { chunks := [body] })
    (.appliedUpdate updateType)
  rw [post, updateCard]
  generalize s.changeCard _ _ = changed at hout ⊢
  obtain ⟨result, after⟩ := changed
  cases hout with
  | committed card _ hedit hkeep hafter =>
    exact .committed card _ hedit hkeep ⟨hafter.store, hafter.file, hafter.table, hafter.updates,
      hafter.rebuilds⟩
  | refused e _ hedit hafter =>
    simp only [refusalStatus_of_refusesEdit (Provider.refusesEdit_editOfBody hedit)]
    exact .refused e _ hedit ⟨hafter.provider, hafter.rebuilds, hafter.contents, hafter.file⟩
  | notOpened card place error _ hedit hkeep hdevice hafter =>
    exact .notOpened card place error _ hedit hkeep hdevice
      ⟨hafter.provider, hafter.rebuilds, hafter.contents, hafter.file⟩
  | brokenOff card path fault _ hedit hpath hkeep hfault hafter =>
    exact .brokenOff card path fault _ hedit hpath hkeep hfault
      ⟨hafter.provider, hafter.rebuilds, hafter.fills⟩

end ClusterCost.Service
