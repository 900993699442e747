import ClusterCost.Proofs.Json.Ending
import ClusterCost.Proofs.Rates.Edits
import ClusterCost.Proofs.Rates.Store
import ClusterCost.Service.Basic

/-!
# An update of the card is one transaction

An update that a provider is asked for either happens in full or not at all (`request_transaction`).
In full: the card, the file, the rate table with its labels and the counters have moved together.
Not at all: only the count of refused updates has. A body whose source fails is always refused, even
if what it gave before is a whole update.
-/

namespace ClusterCost

/-! ### Why an update is refused -/

/-- The errors with which an update can be refused. -/
def PricingError.RefusesUpdate : PricingError → Prop
  | .decode _ | .nonText _ | .unknownField _ | .invalidValue .. | .config (.write ..) => True
  | _ => False

lemma PricingError.RefusesEdit.refusesUpdate {e : PricingError} (h : e.RefusesEdit) :
    e.RefusesUpdate := by
  cases h <;> trivial

/-- A body whose source fails holds no update. -/
lemma CardUpdate.ofBody_failed {body : CardUpdate.Body} {message : String}
    (h : body.ending = .failed message) : ∃ refusal, CardUpdate.ofBody body = .error refusal := by
  obtain ⟨failure, hf⟩ := Json.members_failed CardUpdate.valueReader .streamed body.bytes message
  refine ⟨.ofFailure body.bytes failure, ?_⟩
  rw [CardUpdate.ofBody, h]
  unfold CardUpdate.reader
  rw [Json.Document.read_map, hf]
  rfl

namespace Service

/-! ### What measuring leaves as it was -/

section Measure

variable (s : Service) (wanted : Bool) (f : Metrics → Metrics)

@[simp] lemma provider_measure : (s.measure wanted f).provider = s.provider := by
  rw [measure]
  split_ifs <;> rfl

@[simp] lemma files_measure : (s.measure wanted f).files = s.files := by
  rw [measure]
  split_ifs <;> rfl

@[simp] lemma providerInMetrics_measure :
    (s.measure wanted f).providerInMetrics = s.providerInMetrics := by
  rw [measure]
  split_ifs <;> rfl

end Measure

/-! ### Requests for an update -/

/-- The two ways in which a provider is asked to update its card. -/
inductive CardRequest where
  | body (body : CardUpdate.Body) (updateType : String)
  | map (values : Dictionary String)

namespace CardRequest

/-- The edit that is asked for. -/
def edit : CardRequest → RateCard → Except PricingError RateCard
  | body b _ => Provider.editOfBody b
  | map values => (·.setAll values.entries)

/-- The event of an update that was made. -/
def event : CardRequest → Event
  | body _ updateType => .appliedUpdate updateType
  | map values => .appliedMap values.size

lemma refusesEdit {r : CardRequest} {c : RateCard} {e : PricingError} (h : r.edit c = .error e) :
    e.RefusesEdit := by
  cases r with
  | body b updateType => exact Provider.refusesEdit_editOfBody h
  | map values => exact RateCard.refusesEdit_setAll h

end CardRequest

/-- Ask the provider for an update. -/
def request (s : Service) : CardRequest → Except PricingError RateCard × Service
  | .body b updateType => s.updateCard b updateType
  | .map values => s.updateCardByMap values

lemma request_eq (s : Service) (r : CardRequest) : s.request r = s.changeCard r.edit r.event := by
  cases r with
  | body b updateType => rfl
  | map values => rfl

/-! ### All or nothing -/

/-- All of an update to a card has been done. -/
structure Committed (s after : Service) (card : RateCard) : Prop where
  store : after.provider.store = { s.provider.store with card }
  file : ∀ path, s.provider.store.path = some path → after.files.read path = .ok card.toJson.pretty
  table : after.provider.table = .ofCard card
  updates : ∀ outcome, after.metrics.updates.count outcome =
    s.metrics.updates.count outcome + if outcome = "success" then 1 else 0
  rebuilds : after.metrics.rebuilds = s.metrics.rebuilds + 1

/-- The service has taken nothing of an update, except that it was counted. -/
structure Rejected (s after : Service) : Prop where
  provider : after.provider = s.provider
  updates : ∀ outcome, after.metrics.updates.count outcome =
    s.metrics.updates.count outcome + if outcome = "rejected" then 1 else 0
  rebuilds : after.metrics.rebuilds = s.metrics.rebuilds
  others : after =
    { s with files := after.files, metrics := { s.metrics with updates := after.metrics.updates } }

/-- Nothing of an update has been done. New folders may have been made on the way to a file that
could then not be opened. -/
structure Untouched (s after : Service) : Prop extends Rejected s after where
  contents : ∀ trail, after.files.content? trail = s.files.content? trail
  file : ∀ path content, s.files.read path = .ok content → after.files.read path = .ok content

/-- Nothing of an update has been done but to the file, which has lost its content for this one. -/
structure Damaged (s after : Service) (path : String) (left : Bytes) : Prop
    extends Rejected s after where
  fills : Files.Fills s.files after.files path left

/-- The ways in which a change of the card can end. If the write of its file breaks off, the file
has lost what was in it, and its new content is not whole. -/
inductive ChangeOutcome (s : Service) (edit : RateCard → Except PricingError RateCard) :
    Except PricingError RateCard → Service → Prop where
  | committed (card : RateCard) (after : Service) (h : edit s.provider.card = .ok card)
      (hkeep : (s.provider.store.keep card s.files).1 = .ok ()) (hafter : Committed s after card) :
      ChangeOutcome s edit (.ok card) after
  | refused (e : PricingError) (after : Service) (h : edit s.provider.card = .error e)
      (hafter : Untouched s after) : ChangeOutcome s edit (.error e) after
  | notOpened (card : RateCard) (place : String) (error : FileError) (after : Service)
      (h : edit s.provider.card = .ok card)
      (hkeep : (s.provider.store.keep card s.files).1 = .error (.write place error))
      (hdevice : ∀ cause, error ≠ .device cause) (hafter : Untouched s after) :
      ChangeOutcome s edit (.error (.config (.write place error))) after
  | brokenOff (card : RateCard) (path : String) (fault : WriteFault) (after : Service)
      (h : edit s.provider.card = .ok card) (hpath : s.provider.store.path = some path)
      (hkeep : (s.provider.store.keep card s.files).1 = .error (.write path (.device fault.cause)))
      (hfault : s.files.nextFault = some fault)
      (hafter : Damaged s after path (fault.left card.toJson.pretty)) :
      ChangeOutcome s edit (.error (.config (.write path (.device fault.cause)))) after

/-- A change of the card was made in full or not at all. -/
def AllOrNothing (s : Service) : Except PricingError RateCard → Service → Prop
  | .ok card, after => Committed s after card
  | .error _, after => Untouched s after

/-- The next write to the file of the store, if it has one, does not break off. -/
def WritesWhole (s : Service) : Prop := s.provider.store.path.isSome → s.files.nextFault = none

/-- Only a write that breaks off does half of a change. -/
lemma ChangeOutcome.allOrNothing {s after : Service}
    {edit : RateCard → Except PricingError RateCard} {result : Except PricingError RateCard}
    (hout : ChangeOutcome s edit result after) (h : s.WritesWhole) :
    AllOrNothing s result after := by
  cases hout with
  | committed card _ _ _ hafter => exact hafter
  | refused e _ _ hafter => exact hafter
  | notOpened card place error _ _ _ _ hafter => exact hafter
  | brokenOff card path fault _ _ hpath _ hfault _ =>
    cases hfault.symm.trans (h (by simp [hpath]))

/-- An edit that is refused is answered with its error and changes nothing. -/
lemma ChangeOutcome.of_edit_error {s after : Service}
    {edit : RateCard → Except PricingError RateCard} {result : Except PricingError RateCard}
    (hout : ChangeOutcome s edit result after) {e : PricingError}
    (he : edit s.provider.card = .error e) : result = .error e ∧ Untouched s after := by
  cases hout with
  | refused e' _ h hafter => exact ⟨h.symm.trans he, hafter⟩
  | committed card _ h _ _ => cases he.symm.trans h
  | notOpened card place error _ h _ _ _ => cases he.symm.trans h
  | brokenOff card path fault _ h _ _ _ _ => cases he.symm.trans h

/-- A refused update is counted, whatever has become of the files. -/
lemma rejected_measure (s : Service) (h : s.providerInMetrics = true) (files : Files) :
    Rejected s ({ s with files }.measure s.providerInMetrics (·.updated false)) := by
  rw [measure, if_pos h]
  refine ⟨rfl, ?_, rfl, rfl⟩
  intro outcome
  exact Counters.count_increment s.metrics.updates "rejected" outcome

/-- That is all, as long as no file is touched. -/
lemma untouched_of_extends (s : Service) (h : s.providerInMetrics = true) {files : Files}
    (hfiles : Files.Extends s.files files) :
    Untouched s ({ s with files }.measure s.providerInMetrics (·.updated false)) where
  toRejected := rejected_measure s h files
  contents trail := by
    rw [files_measure]
    exact hfiles.content trail
  file path content hr := by
    rw [files_measure]
    exact hfiles.read hr

lemma damaged_of_fills (s : Service) (h : s.providerInMetrics = true) {files : Files}
    {path : String} {left : Bytes} (hfills : Files.Fills s.files files path left) :
    Damaged s ({ s with files }.measure s.providerInMetrics (·.updated false)) path left where
  toRejected := rejected_measure s h files
  fills := by
    rw [files_measure]
    exact hfills

lemma changeCard_outcome (s : Service) (h : s.providerInMetrics = true)
    (edit : RateCard → Except PricingError RateCard) (event : Event) :
    ChangeOutcome s edit (s.changeCard edit event).1 (s.changeCard edit event).2 := by
  have hout := Store.update_outcome s.provider.store s.files edit
  rw [changeCard, Provider.update]
  generalize s.provider.store.update s.files edit = updated at hout ⊢
  obtain ⟨result, store, files⟩ := updated
  cases hout with
  | refused e hedit => exact .refused e _ hedit (untouched_of_extends s h (.refl s.files))
  | notOpened card place error _ hedit hkeep hdevice hfiles =>
    exact .notOpened card place error _ hedit hkeep hdevice (untouched_of_extends s h hfiles)
  | brokenOff card path fault _ hedit hpath hkeep hfault hfills =>
    exact .brokenOff card path fault _ hedit hpath hkeep hfault (damaged_of_fills s h hfills)
  | accepted card after hedit hkeep hread =>
    refine .committed card _ hedit hkeep ?_
    simp only [measure, record, h, if_true]
    refine ⟨rfl, hread, rfl, ?_, rfl⟩
    intro outcome
    exact Counters.count_increment s.metrics.updates "success" outcome

/-- A change of the card on a full device loses the file. -/
lemma changeCard_fullDevice {s : Service} (hpath : s.provider.store.path = some "/d/p")
    (hfiles : s.files = .fullDevice) {edit : RateCard → Except PricingError RateCard}
    {card : RateCard}
    (h : edit s.provider.card = .ok card) (event : Event) :
    (s.changeCard edit event).1 = .error (.config (.write "/d/p" (.device .noSpace))) ∧
      (s.changeCard edit event).2.files.read "/d/p" = .ok [] := by
  obtain ⟨hresult, hread⟩ := Store.update_fullDevice hpath h
  rw [← hfiles] at hresult hread
  rw [changeCard, Provider.update]
  generalize s.provider.store.update s.files edit = updated at hresult hread ⊢
  obtain ⟨result, store, files⟩ := updated
  simp only at hresult hread
  subst hresult
  simp only [files_measure]
  exact ⟨trivial, hread⟩

/-- An update that a provider is asked for is made in full or not at all, unless the write of its
file breaks off. It is not made for one of five reasons only. If the source of its body fails, it is
not made, whatever the source gave before. -/
theorem request_transaction (s : Service) (h : s.providerInMetrics = true) (r : CardRequest) :
    ChangeOutcome s r.edit (s.request r).1 (s.request r).2 ∧
    (s.WritesWhole → AllOrNothing s (s.request r).1 (s.request r).2) ∧
    (∀ e, (s.request r).1 = .error e → e.RefusesUpdate) ∧
    ∀ b updateType message, r = .body b updateType → b.ending = .failed message →
      Untouched s (s.request r).2 ∧ ∃ refusal, (s.request r).1 = .error (.decode refusal) := by
  have hout := changeCard_outcome s h r.edit r.event
  rw [request_eq]
  refine ⟨hout, hout.allOrNothing, ?_, ?_⟩
  · intro e he
    rw [he] at hout
    cases hout with
    | refused _ _ hedit _ => exact (CardRequest.refusesEdit hedit).refusesUpdate
    | notOpened _ _ _ _ _ _ _ _ => trivial
    | brokenOff _ _ _ _ _ _ _ _ _ => trivial
  · rintro b updateType message rfl hfailed
    obtain ⟨refusal, hrefusal⟩ := CardUpdate.ofBody_failed hfailed
    have hedit : Provider.editOfBody b s.provider.card = .error (.decode refusal) := by
      rw [Provider.editOfBody, hrefusal]
    obtain ⟨hresult, huntouched⟩ := hout.of_edit_error hedit
    exact ⟨huntouched, refusal, hresult⟩

/-- The source of a body fails after it has given a whole update, and the update is not made. -/
theorem request_transaction_source_fails :
    let s : Service :=
      { clusterId := "one", files := .empty "/", provider := ⟨"one", .inMemory .default, .empty⟩ }
    let body : CardUpdate.Body :=
      ⟨[Utf8.encode "\x7b\"CPU\":", Utf8.encode "\"1\"\x7d"], .failed "connection reset"⟩
    (∃ refusal, (s.request (.body body "pricing")).1 = .error (.decode refusal)) ∧
    (s.request (.body body "pricing")).2.provider = s.provider := by
  intro s body
  obtain ⟨-, -, -, hfailed⟩ := request_transaction s rfl (.body body "pricing")
  obtain ⟨huntouched, hrefusal⟩ := hfailed body "pricing" "connection reset" rfl rfl
  exact ⟨hrefusal, huntouched.provider⟩

/-- The device is full when an accepted update is written. The update fails, and its
file is empty. -/
theorem request_loses_file :
    let store : Store := ⟨some "/d/p", .default⟩
    let s : Service :=
      { clusterId := "one", files := .fullDevice, provider := ⟨"one", store, .empty⟩ }
    let r : CardRequest := .map ⟨[("description", "x")], by decide⟩
    (s.request r).1 = .error (.config (.write "/d/p" (.device .noSpace))) ∧
      s.files.read "/d/p" = .ok [0x7B, 0x7D] ∧ (s.request r).2.files.read "/d/p" = .ok [] ∧
      ¬ AllOrNothing s (s.request r).1 (s.request r).2 := by
  intro store s r
  obtain ⟨hresult, hafter⟩ :=
    changeCard_fullDevice (s := s) rfl rfl (show r.edit s.provider.card = .ok _ from rfl) r.event
  have hread : s.files.read "/d/p" = .ok [0x7B, 0x7D] := Files.read_fullDevice
  rw [request_eq]
  refine ⟨hresult, hread, hafter, ?_⟩
  rw [hresult]
  intro huntouched
  cases hafter.symm.trans (huntouched.file "/d/p" _ hread)

end Service

end ClusterCost
