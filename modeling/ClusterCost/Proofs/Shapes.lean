import ClusterCost.Cluster.Info
import ClusterCost.Health
import ClusterCost.Proofs.Dictionary
import ClusterCost.Proofs.Json.RoundTrip
import ClusterCost.Proofs.Rates.Loading
import ClusterCost.Rates.Provider

/-!
# The JSON shapes of the models

Each model is written as an object with a member for each of its fields, and is read from it
again (`roundTrips_models`). A timestamp has to have 64 bits with its sign, as each
timestamp has that was read.
-/

namespace ClusterCost

open Json (Portion Reader Reading Reads Restores RoundTrips Lays MeansText MeansBool MeansInteger
  MeansOptional MeansList MeansMembers MeansVariant MeansRecord restores_text restores_bool
  restores_integer restores_variant restores_record)

variable {r : Reading}

/-! ### Clusters -/

namespace ClusterInfo

def parts : List (Portion ClusterInfo) := [
  .of "id" .required MeansText fun s c => { c with id := s },
  .of "name" .required MeansText fun s c => { c with name := s },
  .of "profile" .required MeansText fun s c => { c with profile := s },
  .of "provider" .required MeansText fun s c => { c with provider := s },
  .of "provisioner" .required MeansText fun s c => { c with provisioner := s }]

lemma restores (hopens : r.Opens) :
    Restores r reader toJson (fun _ => True) (MeansRecord parts ⟨"", "", "", "", ""⟩) := by
  have htext := (restores_text r.inner).reads
  refine restores_record _
    (.cons (htext.fills _ _ _) (.cons (htext.fills _ _ _) (.cons (htext.fills _ _ _)
      (.cons (htext.fills _ _ _) (.cons (htext.fills _ _ _) .nil))))) ?_ (by decide) hopens ?_
  · simp [parts, Portion.commutes_of]
  · intro c
    refine ⟨_, rfl, by simp [Json.Value.Exact], ?_⟩
    exact .put ⟨_, rfl, rfl⟩
      (.put ⟨_, rfl, rfl⟩ (.put ⟨_, rfl, rfl⟩ (.put ⟨_, rfl, rfl⟩ (.put ⟨_, rfl, rfl⟩ (.nil _)))))

end ClusterInfo

/-! ### Prices -/

namespace NodePrice

/-- The rate of GPUs may be left out. -/
def parts : List (Portion NodePrice) := [
  .of "CPU" .required MeansText fun s p => { p with cpu := s },
  .of "RAM" .required MeansText fun s p => { p with ram := s },
  .of "GPU" .defaulted MeansText fun s p => { p with gpu := s }]

lemma restores (hopens : r.Opens) :
    Restores r reader toJson (fun _ => True) (MeansRecord parts ⟨"", "", ""⟩) := by
  have htext := (restores_text r.inner).reads
  refine restores_record _
    (.cons (htext.fills _ _ _) (.cons (htext.fills _ _ _) (.cons (htext.fills _ _ _) .nil))) ?_
    (by decide) hopens ?_
  · simp [parts, Portion.commutes_of]
  · intro p
    refine ⟨_, rfl, by simp [Json.Value.Exact], ?_⟩
    exact .put ⟨_, rfl, rfl⟩ (.put ⟨_, rfl, rfl⟩ (.put ⟨_, rfl, rfl⟩ (.nil _)))

end NodePrice

namespace NodeCharge

def parts : List (Portion NodeCharge) := [
  .of "vCPUCost" .required MeansText fun s n => { n with vcpuCost := s },
  .of "ramCost" .required MeansText fun s n => { n with ramCost := s },
  .of "gpuCost" .required MeansText fun s n => { n with gpuCost := s },
  .of "gpu" .required MeansText fun s n => { n with gpu := s }]

lemma restores (hopens : r.Opens) :
    Restores r reader toJson (fun _ => True) (MeansRecord parts ⟨"", "", "", ""⟩) := by
  have htext := (restores_text r.inner).reads
  refine restores_record _
    (.cons (htext.fills _ _ _) (.cons (htext.fills _ _ _)
      (.cons (htext.fills _ _ _) (.cons (htext.fills _ _ _) .nil)))) ?_ (by decide) hopens ?_
  · simp [parts, Portion.commutes_of]
  · intro n
    refine ⟨_, rfl, by simp [Json.Value.Exact], ?_⟩
    exact .put ⟨_, rfl, rfl⟩ (.put ⟨_, rfl, rfl⟩ (.put ⟨_, rfl, rfl⟩ (.put ⟨_, rfl, rfl⟩ (.nil _))))

end NodeCharge

namespace VolumePrice

def parts : List (Portion VolumePrice) := [.of "cost" .required MeansText fun s _ => ⟨s⟩]

lemma restores (hopens : r.Opens) :
    Restores r reader toJson (fun _ => True) (MeansRecord parts ⟨""⟩) := by
  refine restores_record _ (.cons ((restores_text r.inner).reads.fills _ _ _) .nil)
    (List.pairwise_singleton _ _) (by decide) hopens ?_
  intro p
  exact ⟨_, rfl, by simp [Json.Value.Exact], .put ⟨_, rfl, rfl⟩ (.nil _)⟩

end VolumePrice

lemma RateCard.restores : Restores .whole reader toJson (fun _ => True) Gives where
  reads := reads_reader
  exact c _ := c.numberFree_toJson.exact
  means_tree c _ := by
    have hgives := Gives.object c.fits_members
    rwa [laidOver_members] at hgives
  valid_of_means _ _ := trivial

/-! ### The state of the provider -/

namespace CredentialCheck

def parts : List (Portion CredentialCheck) := [
  .of "message" .required MeansText fun s c => { c with message := s },
  .of "status" .required MeansBool fun b c => { c with status := b },
  .of "additionalInfo" .required MeansText fun s c => { c with additionalInfo := s }]

lemma restores (hopens : r.Opens) :
    Restores r reader toJson (fun _ => True) (MeansRecord parts ⟨"", false, ""⟩) := by
  have htext := (restores_text r.inner).reads
  refine restores_record _
    (.cons (htext.fills _ _ _) (.cons ((restores_bool r.inner).reads.fills _ _ _)
      (.cons (htext.fills _ _ _) .nil))) ?_ (by decide) hopens ?_
  · simp [parts, Portion.commutes_of]
  · intro c
    refine ⟨_, rfl, by simp [Json.Value.Exact], ?_⟩
    exact .put ⟨_, rfl, rfl⟩ (.put ⟨_, rfl, rfl⟩ (.put ⟨_, rfl, rfl⟩ (.nil _)))

end CredentialCheck

namespace CredentialStatus

def parts : List (Portion CredentialStatus) :=
  [.of "checks" .required (MeansList (MeansRecord CredentialCheck.parts ⟨"", false, ""⟩))
     fun checks _ => ⟨checks⟩]

lemma restores (hopens : r.Opens) (hinner : r.inner.Opens) (hitem : r.inner.inner.Opens) :
    Restores r reader toJson (fun _ => True) (MeansRecord parts ⟨[]⟩) := by
  have hchecks := (CredentialCheck.restores hitem).list hinner
  refine restores_record _ (.cons (hchecks.reads.fills _ _ _) .nil) (List.pairwise_singleton _ _)
    (by decide) hopens ?_
  intro s
  refine ⟨_, rfl, List.forall_mem_singleton.mpr (hchecks.exact s.checks (by simp)), ?_⟩
  exact .put ⟨s.checks, hchecks.means_tree s.checks (by simp), rfl⟩ (.nil _)

end CredentialStatus

namespace PricingSource

/-- The error may be left out. -/
def parts : List (Portion PricingSource) := [
  .of "name" .required MeansText fun s p => { p with name := s },
  .of "enabled" .required MeansBool fun b p => { p with enabled := b },
  .of "available" .required MeansBool fun b p => { p with available := b },
  .of "error" .defaulted MeansText fun s p => { p with error := s }]

lemma restores (hopens : r.Opens) :
    Restores r reader toJson (fun _ => True) (MeansRecord parts ⟨"", false, false, ""⟩) := by
  have htext := (restores_text r.inner).reads
  have hbool := (restores_bool r.inner).reads
  refine restores_record _
    (.cons (htext.fills _ _ _) (.cons (hbool.fills _ _ _)
      (.cons (hbool.fills _ _ _) (.cons (htext.fills _ _ _) .nil)))) ?_ (by decide) hopens ?_
  · simp [parts, Portion.commutes_of]
  · intro p
    refine ⟨_, rfl, by simp [Json.Value.Exact], ?_⟩
    exact .put ⟨_, rfl, rfl⟩ (.put ⟨_, rfl, rfl⟩ (.put ⟨_, rfl, rfl⟩ (.put ⟨_, rfl, rfl⟩ (.nil _))))

end PricingSource

/-! ### Health -/

namespace Status

/-- The statuses by their names. -/
def names : List (String × Status) :=
  [("healthy", healthy), ("degraded", degraded), ("unhealthy", unhealthy)]

lemma lookup_label (s : Status) : names.lookup s.label = some s := by
  cases s <;> rfl

lemma restores (hopens : r.Opens) : Restores r reader toJson (fun _ => True) (MeansVariant names) :=
  restores_variant hopens lookup_label

end Status

namespace Readiness

/-- The reason may be left out, and is, if there is none. -/
def parts : List (Portion Readiness) := [
  .of "ready" .required MeansBool fun b r => { r with ready := b },
  .of "reason" .nullable (MeansOptional MeansText) fun s r => { r with reason := s }]

lemma restores (hopens : r.Opens) :
    Restores r reader toJson (fun _ => True) (MeansRecord parts ⟨false, none⟩) := by
  have hreason := (restores_text r.inner).reads.optional
  refine restores_record _
    (.cons ((restores_bool r.inner).reads.fills _ _ _) (.cons (hreason.fills _ _ _) .nil)) ?_
    (by decide) hopens ?_
  · simp [parts, Portion.commutes_of]
  · intro a
    refine ⟨_, rfl, by simp [Json.Value.Exact], ?_⟩
    obtain ⟨ready, _ | reason⟩ := a
    · exact .put ⟨_, rfl, rfl⟩ (.skip (by decide) (.nil _))
    · exact .put ⟨_, rfl, rfl⟩ (.put ⟨some reason, ⟨reason, rfl, rfl⟩, rfl⟩ (.nil _))

end Readiness

namespace ComponentHealth

/-- The message may be left out, and is, if there is none. -/
def parts : List (Portion ComponentHealth) := [
  .of "status" .required (MeansVariant Status.names) fun s h => { h with status := s },
  .of "message" .nullable (MeansOptional MeansText) fun m h => { h with message := m },
  .of "last_check_timestamp" .required MeansInteger fun t h => { h with lastCheck := t }]

/-- The time of the report has 64 bits with its sign. -/
def Timely (h : ComponentHealth) : Prop := Json.Signed64 h.lastCheck

lemma restores (hopens : r.Opens) (hinner : r.inner.Opens) :
    Restores r reader toJson Timely (MeansRecord parts ⟨.healthy, none, 0⟩) := by
  have hmessage := (restores_text r.inner).reads.optional
  have htime := restores_integer r.inner
  refine .record _
    (.cons ((Status.restores hinner).reads.fills _ _ _)
      (.cons (hmessage.fills _ _ _) (.cons (htime.reads.fills _ _ _) .nil)))
    ?_ (by decide) hopens ?_ Json.signed64_zero ?_
  · simp [parts, Portion.commutes_of]
  · rintro ⟨status, message, time⟩ hvalid
    have hexact : Json.Fits64 time := hvalid.fits
    have htree := htime.means_tree time hvalid
    have hstatus : MeansVariant Status.names status.toJson.tree status :=
      ⟨_, status.lookup_label, .inl rfl⟩
    obtain _ | message := message
    · refine ⟨_, rfl, by simp [Json.Value.Exact, Status.toJson, hexact], ?_⟩
      exact .put ⟨status, hstatus, rfl⟩ (.skip (by decide) (.put ⟨time, htree, rfl⟩ (.nil _)))
    · refine ⟨_, rfl, by simp [Json.Value.Exact, Status.toJson, hexact], ?_⟩
      exact .put ⟨status, hstatus, rfl⟩
        (.put ⟨some message, ⟨message, rfl, rfl⟩, rfl⟩ (.put ⟨time, htree, rfl⟩ (.nil _)))
  · simp only [parts, List.forall_mem_cons]
    refine ⟨?_, ?_, ?_, by simp⟩
    · rintro t a b ht ha ⟨s, -, rfl⟩
      exact ha
    · rintro t a b ht ha ⟨m, -, rfl⟩
      exact ha
    · rintro t a b ht ha ⟨n, hn, rfl⟩
      exact htime.valid_of_means ht hn

end ComponentHealth

namespace HealthReport

def parts : List (Portion HealthReport) := [
  .of "status" .required (MeansVariant Status.names) fun s h => { h with status := s },
  .of "components" .required (MeansMembers (MeansRecord ComponentHealth.parts ⟨.healthy, none, 0⟩))
    fun c h => { h with components := .ofList c }]

/-- The times of all reports have 64 bits with their sign. -/
def Timely (h : HealthReport) : Prop := ∀ entry ∈ h.components.entries, entry.2.Timely

lemma restores (hopens : r.Opens) (hinner : r.inner.Opens) (hitem : r.inner.inner.Opens)
    (hstatus : r.inner.inner.inner.Opens) :
    Restores r reader toJson Timely (MeansRecord parts ⟨.healthy, .empty⟩) := by
  have hcomponents := (ComponentHealth.restores hitem hstatus).members hinner
  refine .record _
    (.cons ((Status.restores hinner).reads.fills _ _ _)
      (.cons (hcomponents.reads.fills _ _ _) .nil))
    ?_ (by decide) hopens ?_ ?_ ?_
  · simp [parts, Portion.commutes_of]
  · intro h hvalid
    have hexact : Json.Value.ExactMembers (h.components.map ComponentHealth.toJson).entries :=
      hcomponents.exact h.components.entries hvalid
    have htree := hcomponents.means_tree h.components.entries hvalid
    refine ⟨_, rfl, by simpa [Json.Value.Exact, Status.toJson] using hexact, ?_⟩
    refine .put ⟨h.status, ⟨_, h.status.lookup_label, .inl rfl⟩, rfl⟩
      (.put ⟨h.components.entries, htree, ?_⟩ (.nil _))
    show HealthReport.mk h.status (.ofList h.components.entries) = h
    rw [Dictionary.ofList_entries]
  · simp [Timely, Dictionary.empty]
  · simp only [parts, List.forall_mem_cons]
    refine ⟨?_, ?_, by simp⟩
    · rintro t a b ht ha ⟨s, -, rfl⟩
      exact ha
    · rintro t a b ht ha ⟨entries, hentries, rfl⟩ ⟨name, health⟩ hmem
      have hlast : (Dictionary.ofList entries).get? name = some health :=
        Dictionary.mem_entries_iff.mp hmem
      rw [Dictionary.get?_ofList] at hlast
      exact hcomponents.valid_of_means ht hentries (name, health) (mem_of_lastValue hlast)

/-- Two reports are the same but for the order of their components. -/
structure Reorders (other h : HealthReport) : Prop where
  status : other.status = h.status
  components : other.components.entries.Perm h.components.entries

/-- What may be written for a report: its components are in no order. -/
def Written (h : HealthReport) (text : Bytes) : Prop :=
  ∃ other, Reorders other h ∧ text = other.toJson.compact

lemma Reorders.written_iff {other h : HealthReport} (same : Reorders other h) (text : Bytes) :
    Written other text ↔ Written h text := by
  constructor
  · rintro ⟨third, hthird, rfl⟩
    exact ⟨third, ⟨hthird.status.trans same.status, hthird.components.trans same.components⟩, rfl⟩
  · rintro ⟨third, hthird, rfl⟩
    exact ⟨third,
      ⟨hthird.status.trans same.status.symm, hthird.components.trans same.components.symm⟩, rfl⟩

/-- What is written for a report is read as this report, but for the order, and then the same may be
written for it. -/
lemma written_normal {h : HealthReport} (hvalid : h.Timely) {out : Bytes} (hout : Written h out) :
    ∃ back, Json.readText reader out = .ok back ∧ Reorders back h ∧
      ∀ text, Written back text ↔ Written h text := by
  obtain ⟨other, same, rfl⟩ := hout
  have hother : other.Timely := fun entry hentry => hvalid entry (same.components.mem_iff.mp hentry)
  have hrestores :=
    restores (r := .whole) (.inr (by decide)) (.inr (by decide)) (.inr (by decide))
      (.inr (by decide))
  exact ⟨other, hrestores.roundTrips.compact other hother, same, same.written_iff⟩

/-- Components may be written in any order: what is read has the same report for each name. -/
lemma readText_reordered {h other : HealthReport} (hvalid : h.Timely)
    (hstatus : other.status = h.status)
    (hperm : other.components.entries.Perm h.components.entries) :
    ∃ back, Json.readText reader other.toJson.compact = .ok back ∧ back.status = h.status ∧
      ∀ name, back.components.get? name = h.components.get? name := by
  obtain ⟨back, hread, same, -⟩ := written_normal hvalid ⟨other, ⟨hstatus, hperm⟩, rfl⟩
  exact ⟨back, hread, same.status, Dictionary.get?_perm same.components⟩

end HealthReport

/-! ### All models -/

/-- What is written for a model is read as the same value, and what is read from any text can be
written and read again. This is so for all values, but that the times of health reports need 64
bits, which those that are read have. The components of a health report have no order: in whatever
order they are written, each has its report when they are read. So for a report only what may be
written, in any order, is a normal form: to read any of it leaves the report as it is but for the
order, and the same may be written for it again. -/
theorem roundTrips_models :
    RoundTrips ClusterInfo.reader ClusterInfo.toJson (fun _ => True) ∧
    RoundTrips NodePrice.reader NodePrice.toJson (fun _ => True) ∧
    RoundTrips NodeCharge.reader NodeCharge.toJson (fun _ => True) ∧
    RoundTrips VolumePrice.reader VolumePrice.toJson (fun _ => True) ∧
    RoundTrips CredentialStatus.reader CredentialStatus.toJson (fun _ => True) ∧
    RoundTrips PricingSource.reader PricingSource.toJson (fun _ => True) ∧
    RoundTrips RateCard.reader RateCard.toJson (fun _ => True) ∧
    RoundTrips Readiness.reader Readiness.toJson (fun _ => True) ∧
    RoundTrips HealthReport.reader HealthReport.toJson HealthReport.Timely ∧
    (∀ h other : HealthReport, h.Timely → other.status = h.status →
      other.components.entries.Perm h.components.entries →
      (∃ back, Json.readText HealthReport.reader other.toJson.compact = .ok back ∧
        back.status = h.status ∧
        ∀ name, back.components.get? name = h.components.get? name)) ∧
    ∀ text h, Json.readText HealthReport.reader text = .ok h → ∀ out, h.Written out →
      ∃ back, Json.readText HealthReport.reader out = .ok back ∧ HealthReport.Reorders back h ∧
        ∀ again, back.Written again ↔ h.Written again := by
  have hopens : Reading.whole.Opens := .inr (by decide)
  have hinner : Reading.whole.inner.Opens := .inr (by decide)
  have hitem : Reading.whole.inner.inner.Opens := .inr (by decide)
  have hvariant : Reading.whole.inner.inner.inner.Opens := .inr (by decide)
  have hreports := (HealthReport.restores hopens hinner hitem hvariant).roundTrips
  refine ⟨?_, ?_, ?_, ?_, ?_, ?_, ?_, ?_, hreports, ?_, ?_⟩
  · exact (ClusterInfo.restores hopens).roundTrips
  · exact (NodePrice.restores hopens).roundTrips
  · exact (NodeCharge.restores hopens).roundTrips
  · exact (VolumePrice.restores hopens).roundTrips
  · exact (CredentialStatus.restores hopens hinner hitem).roundTrips
  · exact (PricingSource.restores hopens).roundTrips
  · exact RateCard.restores.roundTrips
  · exact (Readiness.restores hopens).roundTrips
  · intro h other hvalid hstatus hperm
    exact HealthReport.readText_reordered hvalid hstatus hperm
  · intro text h hread out hout
    exact HealthReport.written_normal (hreports.valid text h hread) hout

/-- Texts with an unknown member, without an optional one, with a `null` and in the form of a list;
and reports at both ends of time, written in another order. -/
theorem roundTrips_models_forms :
    (Json.readText NodePrice.reader
      (Utf8.encode "\x7b\"x\":[null],\"RAM\":\"\\u00e9\",\"CPU\":\"\"\x7d") = .ok ⟨"", "é", ""⟩ ∧
      Json.readText NodePrice.reader (NodePrice.mk "" "é" "").toJson.compact = .ok ⟨"", "é", ""⟩) ∧
    (Json.readText PricingSource.reader (Utf8.encode "[\"a\",true, false ]") =
      .ok ⟨"a", true, false, ""⟩ ∧
      Json.readText PricingSource.reader (PricingSource.mk "a" true false "").toJson.pretty =
        .ok ⟨"a", true, false, ""⟩) ∧
    (Json.readText Readiness.reader (Utf8.encode "\x7b\"reason\":null,\"ready\":true\x7d") =
      .ok ⟨true, none⟩ ∧
      Json.readText Readiness.reader (Readiness.mk true none).toJson.compact = .ok ⟨true, none⟩) ∧
    let first : ComponentHealth := ⟨.healthy, none, -9223372036854775808⟩
    let last : ComponentHealth := ⟨.degraded, some "\"\x00\n", 9223372036854775807⟩
    let h : HealthReport := ⟨.degraded, .ofList [("a", first), ("ü", last)]⟩
    let other : HealthReport := ⟨.degraded, .ofList [("ü", last), ("a", first)]⟩
    h.Timely ∧ Json.readText HealthReport.reader h.toJson.compact = .ok h ∧
      ∃ back, Json.readText HealthReport.reader other.toJson.compact = .ok back ∧
        back.status = .degraded ∧
        back.components.get? "ü" = some last := by
  obtain ⟨-, hprices, -, -, -, hsources, -, hstates, hreports, hreordered, -⟩ := roundTrips_models
  refine ⟨⟨?price, (hprices.again _ _ ?price).1⟩, ⟨?source, (hsources.again _ _ ?source).2⟩,
    ⟨?state, (hstates.again _ _ ?state).1⟩, ?_⟩
  case price => exact toOption_eq_some_iff.mp (by decide +kernel)
  case source => exact toOption_eq_some_iff.mp (by decide +kernel)
  case state => exact toOption_eq_some_iff.mp (by decide +kernel)
  intro first last h other
  have hentries : h.components.entries = [("a", first), ("ü", last)] := by rfl
  have hother : other.components.entries = [("ü", last), ("a", first)] := by rfl
  have hfirst : first.Timely := ⟨by decide, by decide⟩
  have hlast : last.Timely := ⟨by decide, by decide⟩
  have hvalid : h.Timely := by
    intro entry hentry
    rw [hentries] at hentry
    rcases List.mem_cons.mp hentry with rfl | hentry
    · exact hfirst
    · obtain rfl := List.mem_singleton.mp hentry
      exact hlast
  have hperm : other.components.entries.Perm h.components.entries := by
    rw [hentries, hother]
    exact .swap _ _ _
  obtain ⟨back, hread, hstatus, hget⟩ := hreordered h other hvalid rfl hperm
  exact ⟨hvalid, hreports.compact h hvalid, back, hread, hstatus, (hget "ü").trans rfl⟩

end ClusterCost
