import ClusterCost.Proofs.Cluster.Run

/-!
# The snapshot and what is counted of it

At any time of a run the snapshot is that of the latest response to a query, or empty if there
was none yet, and the metrics agree with it: the gauge with its size, the counters with the
refreshes that have finished (`integrity_of_run`). Refreshes overlap and finish in any order;
what carries the proof is that each step has its whole effect at once, on the snapshot and on the
metrics (`effect_of_move`).
-/

namespace ClusterCost.Refresher

/-! ### What a step did -/

namespace Taken

/-- The response that the step brought, with the local identity at that time. -/
def response? (t : Taken) : Option (List Series × Dictionary String) :=
  match t.step with
  | .answer _ (.ok rows) identity => some (rows, identity)
  | _ => none

/-- Whether the step ended a refresh by the failure of its last attempt. -/
def gaveUp (t : Taken) : Bool :=
  match t.step with
  | .answer w (.error _) _ =>
    (t.before.job? w).any fun job => Retry.limit t.before.settings.attempts ≤ job.attempt
  | _ => false

/-- Whether the step started a refresh. -/
def starts (t : Taken) : Bool :=
  match t.step with
  | .request | .tick => true
  | _ => false

end Taken

/-- The snapshot of a response. -/
def snapshotOf (settings : RefreshSettings) (response : List Series × Dictionary String) :
    Snapshot :=
  (Snapshot.assemble settings.ownId response.1 response.2).snapshot

/-- The snapshot and the metrics are what the steps taken make of them. -/
structure Integrity (settings : RefreshSettings) (taken : List Taken) (m : Refresher)
    (metrics : Metrics) : Prop where
  /-- The snapshot is that of the latest response alone. -/
  snapshot : m.snapshot = (taken.findSome? Taken.response?).elim .empty (snapshotOf settings)
  /-- The gauge is the size of the snapshot, in 64 bits with a sign. -/
  gauge : metrics.clusters = (m.snapshot.size : Int).bmod (Nat.pow 2 64)
  successes : metrics.refreshes.count "success" = taken.countP (·.response?.isSome)
  failures : metrics.refreshes.count "failure" = taken.countP Taken.gaveUp
  observed : metrics.latency.count =
    metrics.refreshes.count "success" + metrics.refreshes.count "failure"
  /-- Each refresh that was started is under way or has been counted, the first load included. -/
  accounted : metrics.refreshes.count "success" + metrics.refreshes.count "failure" + m.underWay =
    1 + taken.countP Taken.starts

/-! ### The effect of a step -/

/-- A report that says nothing of a refresh that has finished. -/
def quiet : Report → Bool
  | .refreshed .. | .failed .. => false
  | _ => true

lemma foldl_note_quiet {reports : List Report} (h : ∀ r ∈ reports, quiet r = true)
    (metrics : Metrics) :
    (reports.foldl Metrics.note metrics).clusters = metrics.clusters ∧
    (reports.foldl Metrics.note metrics).refreshes = metrics.refreshes ∧
    (reports.foldl Metrics.note metrics).latency = metrics.latency := by
  induction reports generalizing metrics with
  | nil => exact ⟨rfl, rfl, rfl⟩
  | cons r rest ih =>
    obtain ⟨hclusters, hrefreshes, hlatency⟩ :=
      ih (fun r' hr => h r' (List.mem_cons_of_mem r hr)) (metrics.note r)
    have hr := h r List.mem_cons_self
    rw [List.foldl_cons, hclusters, hrefreshes, hlatency]
    cases r with
    | refreshed elapsed clusters => cases hr
    | failed elapsed attempts e => cases hr
    | _ => exact ⟨rfl, rfl, rfl⟩

/-- The response of a refresh is counted once, whatever rows were skipped. -/
lemma foldl_note_load (m : Refresher) (elapsed : Nat) (rows : List Series)
    (identity : Dictionary String) (metrics : Metrics) :
    ((m.load elapsed rows identity).2.foldl Metrics.note metrics).clusters =
      ((snapshotOf m.settings (rows, identity)).size : Int).bmod (Nat.pow 2 64) ∧
    ((m.load elapsed rows identity).2.foldl Metrics.note metrics).refreshes =
      metrics.refreshes.increment "success" ∧
    ((m.load elapsed rows identity).2.foldl Metrics.note metrics).latency.count =
      metrics.latency.count + 1 := by
  rw [load]
  simp only
  generalize hmade : Snapshot.assemble m.settings.ownId rows identity = made
  have hquiet :
      ∀ r ∈ made.skipped.map Report.skippedRow ++ made.withoutOwn.toList.map
        (.withoutOwn m.settings.ownId),
      quiet r = true := by
    intro r hr
    rcases List.mem_append.mp hr with hr | hr
    · obtain ⟨e, -, rfl⟩ := List.mem_map.mp hr
      rfl
    · obtain ⟨e, -, rfl⟩ := List.mem_map.mp hr
      rfl
  obtain ⟨-, hrefreshes, hlatency⟩ := foldl_note_quiet hquiet metrics
  rw [List.foldl_append]
  refine ⟨?_, ?_, ?_⟩
  · rw [snapshotOf, hmade, List.foldl_cons, List.foldl_nil]
    dsimp only [Metrics.note, Metrics.refreshed]
  · show Counters.increment _ "success" = _
    rw [hrefreshes]
  · show (Histogram.count _) + 1 = _
    rw [hlatency]

/-- One, if so. -/
def one (b : Bool) : Nat := if b then 1 else 0

/-- All that a step does to the snapshot, the metrics and the refreshes under way. -/
structure Effect (t : Taken) (after : Refresher) (metrics measured : Metrics) : Prop where
  snapshot : after.snapshot = t.response?.elim t.before.snapshot (snapshotOf t.before.settings)
  gauge : measured.clusters =
    t.response?.elim metrics.clusters fun _ => (after.snapshot.size : Int).bmod (Nat.pow 2 64)
  successes : measured.refreshes.count "success" =
    metrics.refreshes.count "success" + one t.response?.isSome
  failures : measured.refreshes.count "failure" = metrics.refreshes.count "failure" + one t.gaveUp
  observed : measured.latency.count = metrics.latency.count + one t.response?.isSome + one t.gaveUp
  accounted : after.underWay + one t.response?.isSome + one t.gaveUp =
    t.before.underWay + one t.starts

/-- A step that ends no refresh leaves the snapshot and the metrics alone. -/
lemma effect_of_quiet {t : Taken} {after : Refresher} {reports : List Report} (metrics : Metrics)
    (hresponse : t.response? = none) (hgave : t.gaveUp = false)
    (hsnapshot : after.snapshot = t.before.snapshot)
    (hquiet : ∀ r ∈ reports, quiet r = true)
    (hunder : after.underWay = t.before.underWay + one t.starts) :
    Effect t after metrics (reports.foldl Metrics.note metrics) := by
  obtain ⟨hclusters, hrefreshes, hlatency⟩ := foldl_note_quiet hquiet metrics
  constructor
  · rw [hresponse]
    exact hsnapshot
  · rw [hresponse]
    exact hclusters
  · rw [hresponse, hrefreshes]
    rfl
  · rw [hgave, hrefreshes]
    rfl
  · rw [hresponse, hgave, hlatency]
    rfl
  · rw [hresponse, hgave]
    exact hunder

/-- A response replaces the snapshot and ends its refresh. -/
lemma effect_responded {m : Refresher} {w : Worker} {job : Job} (hjob : m.job? w = some job)
    (now : Nat) (rows : List Series)
    (identity : Dictionary String) (metrics : Metrics) :
    Effect ⟨now, m, .answer w (.ok rows) identity⟩
      ((m.load (now - job.startedAt) rows identity).1.finish w) metrics
      ((m.load (now - job.startedAt) rows identity).2.foldl Metrics.note metrics) := by
  obtain ⟨hclusters, hrefreshes, hlatency⟩ :=
    foldl_note_load m (now - job.startedAt) rows identity metrics
  have hsnapshot : ((m.load (now - job.startedAt) rows identity).1.finish w).snapshot =
      snapshotOf m.settings (rows, identity) := snapshot_finish _ w
  have hresponse : Taken.response? ⟨now, m, .answer w (.ok rows) identity⟩ =
      some (rows, identity) := rfl
  constructor
  · exact hsnapshot
  · rw [hsnapshot, hclusters, hresponse, Option.elim_some]
  · rw [hrefreshes, Counters.count_increment]
    rfl
  · rw [hrefreshes, Counters.count_increment]
    rfl
  · exact hlatency
  · have hjob' : (m.load (now - job.startedAt) rows identity).1.job? w = some job := by
      rw [← hjob]
      cases w <;> rfl
    exact underWay_finish hjob'

/-- The failure of the last attempt ends its refresh and leaves the snapshot alone. -/
lemma effect_gaveUp {m : Refresher} {w : Worker} {job : Job} (hjob : m.job? w = some job)
    (hlast : Retry.limit m.settings.attempts ≤ job.attempt) (now : Nat) (e : QueryError)
    (identity : Dictionary String)
    (metrics : Metrics) :
    Effect ⟨now, m, .answer w (.error e) identity⟩ (m.finish w) metrics
      (metrics.note (.failed (now - job.startedAt) (Retry.limit m.settings.attempts) e)) := by
  have hgave : Taken.gaveUp ⟨now, m, .answer w (.error e) identity⟩ = true := by
    simp [Taken.gaveUp, hjob, hlast]
  constructor
  · exact snapshot_finish m w
  · rfl
  · show (Counters.increment _ "failure").count "success" = _
    rw [Counters.count_increment]
    rfl
  · show (Counters.increment _ "failure").count "failure" = _
    rw [Counters.count_increment, hgave]
    rfl
  · rw [hgave]
    rfl
  · rw [hgave]
    exact underWay_finish hjob

theorem effect_of_move {m after : Refresher} {now : Nat} {step : Step} {reports : List Report}
    (move : Move m now step after reports) (metrics : Metrics) :
    Effect ⟨now, m, step⟩ after metrics (reports.foldl Metrics.note metrics) := by
  cases move with
  | responded w job rows identity hjob hasking =>
    exact effect_responded hjob now rows identity metrics
  | gaveUp w job e identity hjob hasking hlast =>
    exact effect_gaveUp hjob hlast now e identity metrics
  | again w job e identity hjob hasking hmore =>
    have hgave : Taken.gaveUp ⟨now, m, .answer w (.error e) identity⟩ = false := by
      simp [Taken.gaveUp, hjob, hmore]
    exact effect_of_quiet metrics rfl hgave (snapshot_setJob m w _) (by simp)
      (underWay_setJob m w _)
  | woke w job time hjob hwaiting hover =>
    exact effect_of_quiet metrics rfl rfl (snapshot_setJob m w _) (by simp) (underWay_setJob m w _)
  | requested h =>
    refine effect_of_quiet metrics rfl rfl rfl (by simp) ?_
    simp only [underWay, List.length_append, List.length_singleton, one, Taken.starts, if_true]
    omega
  | began h =>
    refine effect_of_quiet metrics rfl rfl rfl (by simp [quiet]) ?_
    rw [underWay, underWay, h, startLoop]
    cases m.settings.isTooLong now <;> rfl
  | ticked due h hdue =>
    refine effect_of_quiet metrics rfl rfl rfl (by simp) ?_
    rw [underWay, underWay, h]
    rfl
  | stopped => exact effect_of_quiet metrics rfl rfl rfl (by simp) rfl
  | left due h hstopping =>
    refine effect_of_quiet metrics rfl rfl rfl (by simp [quiet]) ?_
    rw [underWay, underWay, h]
    rfl

/-! ### Whole runs -/

variable {settings : RefreshSettings} {since : Nat} {taken : List Taken} {m after : Refresher}
  {metrics measured : Metrics}

lemma integrity_start (settings : RefreshSettings) (since : Nat) :
    Integrity settings [] (start settings since) {} where
  snapshot := rfl
  gauge := by
    show (0 : Int) = Int.bmod 0 _
    rw [Int.zero_bmod]
  successes := rfl
  failures := rfl
  observed := rfl
  accounted := rfl

lemma countP_cons_one (p : Taken → Bool) (t : Taken) (taken : List Taken) :
    (t :: taken).countP p = taken.countP p + one (p t) := by
  rw [List.countP_cons, one]

/-- What holds of the steps so far holds with one more step, if that has its effect. -/
lemma Integrity.cons (h : Integrity settings taken m metrics) (hsettings : m.settings = settings)
    {t : Taken} (ht : t.before = m) (he : Effect t after metrics measured) :
    Integrity settings (t :: taken) after measured := by
  subst ht
  have hsnapshot := he.snapshot
  have hgauge := he.gauge
  have hsuccesses := he.successes
  have hfailures := he.failures
  have haccounted := he.accounted
  constructor
  · rw [List.findSome?_cons]
    cases hr : t.response? with
    | none =>
      rw [hr] at hsnapshot
      exact hsnapshot.trans h.snapshot
    | some response =>
      rw [hr, hsettings] at hsnapshot
      exact hsnapshot
  · cases hr : t.response? with
    | none =>
      rw [hr, Option.elim_none] at hgauge hsnapshot
      rw [hgauge, hsnapshot, h.gauge]
    | some response =>
      rw [hr, Option.elim_some] at hgauge
      exact hgauge
  · rw [hsuccesses, countP_cons_one, h.successes]
  · rw [hfailures, countP_cons_one, h.failures]
  · rw [he.observed, h.observed, hsuccesses, hfailures]
    omega
  · have hsofar := h.accounted
    rw [hsuccesses, hfailures, countP_cons_one]
    omega

lemma Run.integrity (run : Run settings since taken m metrics) :
    Integrity settings taken m metrics := by
  induction run with
  | start => exact integrity_start settings since
  | step now step run htime h ih =>
    exact ih.cons run.settings_eq rfl (effect_of_move (move_of_step h) _)

/-- At any time of a run the snapshot is that of the latest response alone, the gauge is its size,
and each refresh that has finished is counted and timed once. A step that brings no response leaves
the snapshot and the gauge as they are. -/
theorem integrity_of_run (run : Run settings since taken m metrics) :
    Integrity settings taken m metrics ∧
    (m.snapshot.size < Nat.pow 2 63 → metrics.clusters = m.snapshot.size) ∧
    ∀ now step after reports, m.step now step = some (after, reports) →
      Taken.response? ⟨now, m, step⟩ = none →
      after.snapshot = m.snapshot ∧
      (reports.foldl Metrics.note metrics).clusters = metrics.clusters := by
  refine ⟨run.integrity, ?_, ?_⟩
  · intro hsize
    have hdouble : Nat.pow 2 64 = Nat.pow 2 63 * 2 := rfl
    rw [run.integrity.gauge]
    exact Int.bmod_eq_of_le_mul_two (by omega) (by omega)
  · intro now step after reports h hresponse
    have he := effect_of_move (move_of_step h) metrics
    have hsnapshot := he.snapshot
    have hgauge := he.gauge
    rw [hresponse] at hsnapshot hgauge
    exact ⟨hsnapshot, hgauge⟩

/-- The first load fails, and then two refreshes overlap: the one that was asked for last has a
response, and after that the other one fails. -/
theorem integrity_of_run_overlapping :
    let settings : RefreshSettings :=
      { ownId := "one", interval := 1000, attempts := 1, delay := 10 }
    let identity : Dictionary String := .ofList [("id", "one"), ("name", "first")]
    ∃ taken m metrics, Run settings 0 taken m metrics ∧ taken.length = 6 ∧
      m.snapshot = snapshotOf settings ([], identity) ∧
      metrics.refreshes.count "success" = 1 ∧ metrics.refreshes.count "failure" = 2 ∧
      metrics.latency.count = 3 := by
  intro settings identity
  have first : Run settings 0 _ _ _ :=
    .step 1 (.answer .loop (.error .transport) identity) .start (by decide) rfl
  have begun : Run settings 0 _ _ _ := .step 1 .begin first (by decide) rfl
  have asked : Run settings 0 _ _ _ := .step 2 .request begun (by decide) rfl
  have askedTwice : Run settings 0 _ _ _ := .step 3 .request asked (by decide) rfl
  have responded : Run settings 0 _ _ _ :=
    .step 4 (.answer (.requested 1) (.ok []) identity) askedTwice (by decide) rfl
  have failed : Run settings 0 _ _ _ :=
    .step 5 (.answer (.requested 0) (.error .transport) identity) responded (by decide) rfl
  obtain ⟨h, -, -⟩ := integrity_of_run failed
  refine ⟨_, _, _, failed, rfl, h.snapshot, h.successes, h.failures, ?_⟩
  rw [h.observed, h.successes, h.failures]
  rfl

end ClusterCost.Refresher
