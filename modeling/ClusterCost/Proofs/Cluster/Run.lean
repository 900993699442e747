import ClusterCost.Service.Basic
import Mathlib.Tactic.Common

/-!
# Runs of a refresher

A run starts with the first load and goes on with whatever step is possible: refreshes that are
asked for, answers with any outcome, delays that end, ticks of the loop, and a stop at any time.
`Move` lists all that a step can do, and `Run` keeps the steps that were taken and what their
reports have left in the metrics.
-/

namespace ClusterCost.Refresher

/-! ### Steps -/

/-- All that a step at a time can do. -/
inductive Move (m : Refresher) (now : Nat) : Step → Refresher → List Report → Prop
  | requested (h : m.isLoading = false) :
      Move m now .request { m with requested := m.requested ++ [{ startedAt := now }] } []
  | responded (w : Worker) (job : Job) (rows : List Series) (identity : Dictionary String)
      (hjob : m.job? w = some job)
      (hasking : job.phase = .asking) :
      Move m now (.answer w (.ok rows) identity)
        ((m.load (now - job.startedAt) rows identity).1.finish w)
        (m.load (now - job.startedAt) rows identity).2
  | gaveUp (w : Worker) (job : Job) (e : QueryError) (identity : Dictionary String)
      (hjob : m.job? w = some job)
      (hasking : job.phase = .asking) (hlast : Retry.limit m.settings.attempts ≤ job.attempt) :
      Move m now (.answer w (.error e) identity) (m.finish w)
        [.failed (now - job.startedAt) (Retry.limit m.settings.attempts) e]
  | again (w : Worker) (job : Job) (e : QueryError) (identity : Dictionary String)
      (hjob : m.job? w = some job)
      (hasking : job.phase = .asking) (hmore : job.attempt < Retry.limit m.settings.attempts) :
      Move m now (.answer w (.error e) identity)
        (m.setJob w
           { job with attempt := job.attempt + 1, phase := .waiting (now + m.settings.delay) })
          []
  | woke (w : Worker) (job : Job) (time : Nat) (hjob : m.job? w = some job)
      (hwaiting : job.phase = .waiting time)
      (hover : time ≤ now) : Move m now (.wake w) (m.setJob w { job with phase := .asking }) []
  | began (h : m.loop = .starting) :
      Move m now .begin { m with loop := startLoop m.settings now }
        [.loopStarted m.settings.interval]
  | ticked (due : Nat) (h : m.loop = .idle due) (hdue : due ≤ now) :
      Move m now .tick
        { m with loop := .refreshing (due + m.settings.interval) { startedAt := now } } []
  | stopped : Move m now .stop { m with stopping := true } []
  | left (due : Nat) (h : m.loop = .idle due) (hstopping : m.stopping = true) :
      Move m now .leave { m with loop := .ended } [.loopStopped]

lemma move_answer {m : Refresher} (now : Nat) {w : Worker} {job : Job} (hjob : m.job? w = some job)
    (hasking : job.phase = .asking) (outcome : Except QueryError (List Series))
    (identity : Dictionary String) :
    Move m now (.answer w outcome identity) (m.answer now w job outcome identity).1
      (m.answer now w job outcome identity).2 := by
  cases outcome with
  | ok rows => exact .responded w job rows identity hjob hasking
  | error e =>
    rw [answer]
    by_cases hlast : Retry.limit m.settings.attempts ≤ job.attempt
    · simp only [Retry.decide, if_pos hlast]
      exact .gaveUp w job e identity hjob hasking hlast
    · simp only [Retry.decide, if_neg hlast]
      exact .again w job e identity hjob hasking (Nat.lt_of_not_le hlast)

lemma move_of_step {m after : Refresher} {now : Nat} {step : Step} {reports : List Report}
    (h : m.step now step = some (after, reports)) : Move m now step after reports := by
  cases step with
  | request =>
    rw [Refresher.step] at h
    split at h
    · cases h
    · rename_i hloaded
      cases h
      refine .requested ?_
      rw [isLoading]
      split
      · rename_i job hl
        exact absurd hl (hloaded job)
      · rfl
  | answer w outcome identity =>
    rw [Refresher.step] at h
    cases hj : m.job? w with
    | none => simp [hj] at h
    | some job =>
      simp only [hj, Option.ite_none_right_eq_some, Option.some.injEq] at h
      obtain ⟨hasking, h⟩ := h
      have hmove := move_answer now hj hasking outcome identity
      rw [h] at hmove
      exact hmove
  | wake w =>
    rw [Refresher.step] at h
    cases hj : m.job? w with
    | none => simp [hj] at h
    | some job =>
      cases hp : job.phase with
      | asking => simp [hj, hp] at h
      | waiting time =>
        simp only [hj, hp, Option.ite_none_right_eq_some, Option.some.injEq, Prod.mk.injEq] at h
        obtain ⟨hover, rfl, rfl⟩ := h
        exact .woke w job time hj hp hover
  | begin =>
    rw [Refresher.step] at h
    cases hl : m.loop with
    | starting =>
      simp only [hl, Option.some.injEq, Prod.mk.injEq] at h
      obtain ⟨rfl, rfl⟩ := h
      exact .began hl
    | _ => simp [hl] at h
  | tick =>
    rw [Refresher.step] at h
    cases hl : m.loop with
    | idle due =>
      simp only [hl, Option.ite_none_right_eq_some, Option.some.injEq, Prod.mk.injEq] at h
      obtain ⟨hdue, rfl, rfl⟩ := h
      exact .ticked due hl hdue
    | _ => simp [hl] at h
  | stop =>
    rw [Refresher.step] at h
    cases h
    exact .stopped
  | leave =>
    rw [Refresher.step] at h
    cases hl : m.loop with
    | idle due =>
      simp only [hl, Option.ite_none_right_eq_some, Option.some.injEq, Prod.mk.injEq] at h
      obtain ⟨hstopping, rfl, rfl⟩ := h
      exact .left due hl hstopping
    | _ => simp [hl] at h

/-! ### Refreshes under way -/

/-- The number of refreshes under way. -/
def underWay (m : Refresher) : Nat :=
  m.requested.length +
    match m.loop with
    | .loading _ | .refreshing .. => 1
    | _ => 0

lemma underWay_setJob (m : Refresher) (w : Worker) (job : Job) :
    (m.setJob w job).underWay = m.underWay := by
  cases w with
  | loop =>
    rw [setJob]
    cases hl : m.loop <;> simp [underWay, hl]
  | requested index => simp [setJob, underWay]

lemma underWay_finish {m : Refresher} {w : Worker} {job : Job} (h : m.job? w = some job) :
    (m.finish w).underWay + 1 = m.underWay := by
  cases w with
  | loop =>
    rw [job?] at h
    cases hl : m.loop with
    | loading job => simp [finish, underWay, hl]
    | refreshing due job => simp [finish, underWay, hl]
    | _ => simp [hl] at h
  | requested index =>
    have hindex : index < m.requested.length := (List.getElem?_eq_some_iff.mp h).1
    have hlength := List.length_eraseIdx_of_lt hindex
    simp only [finish, underWay, hlength]
    omega

@[simp] lemma snapshot_setJob (m : Refresher) (w : Worker) (job : Job) :
    (m.setJob w job).snapshot = m.snapshot := by
  cases w with
  | loop =>
    rw [setJob]
    cases m.loop <;> rfl
  | requested index => rfl

@[simp] lemma snapshot_finish (m : Refresher) (w : Worker) :
    (m.finish w).snapshot = m.snapshot := by
  cases w with
  | loop =>
    rw [finish]
    cases m.loop <;> rfl
  | requested index => rfl

@[simp] lemma settings_setJob (m : Refresher) (w : Worker) (job : Job) :
    (m.setJob w job).settings = m.settings := by
  cases w with
  | loop =>
    rw [setJob]
    cases m.loop <;> rfl
  | requested index => rfl

@[simp] lemma settings_finish (m : Refresher) (w : Worker) :
    (m.finish w).settings = m.settings := by
  cases w with
  | loop =>
    rw [finish]
    cases m.loop <;> rfl
  | requested index => rfl

/-- How a refresher works does not change. -/
lemma Move.settings_eq {m after : Refresher} {now : Nat} {step : Step} {reports : List Report}
    (move : Move m now step after reports) : after.settings = m.settings := by
  cases move with
  | responded w job rows identity hjob hasking => exact settings_finish _ w
  | gaveUp w job e identity hjob hasking hlast => exact settings_finish m w
  | again w job e identity hjob hasking hmore => exact settings_setJob m w _
  | woke w job time hjob hwaiting hover => exact settings_setJob m w _
  | _ => rfl

@[simp] lemma stopping_setJob (m : Refresher) (w : Worker) (job : Job) :
    (m.setJob w job).stopping = m.stopping := by
  cases w with
  | loop =>
    rw [setJob]
    cases m.loop <;> rfl
  | requested index => rfl

@[simp] lemma stopping_finish (m : Refresher) (w : Worker) :
    (m.finish w).stopping = m.stopping := by
  cases w with
  | loop =>
    rw [finish]
    cases m.loop <;> rfl
  | requested index => rfl

/-- Only a stop tells the loop to stop. -/
lemma Move.stopping_eq {m after : Refresher} {now : Nat} {step : Step} {reports : List Report}
    (move : Move m now step after reports) (h : step ≠ .stop) : after.stopping = m.stopping := by
  cases move with
  | responded w job rows identity hjob hasking => exact stopping_finish _ w
  | gaveUp w job e identity hjob hasking hlast => exact stopping_finish m w
  | again w job e identity hjob hasking hmore => exact stopping_setJob m w _
  | woke w job time hjob hwaiting hover => exact stopping_setJob m w _
  | stopped => exact absurd rfl h
  | _ => rfl

/-! ### Whole runs -/

/-- A step that was taken: its time, and the state it was taken in. -/
structure Taken where
  time : Nat
  before : Refresher
  step : Step

/-- The time that has come, if these steps were taken, the newest first, since this time. -/
def timeOf (since : Nat) : List Taken → Nat
  | [] => since
  | t :: _ => t.time

/-- The states that a refresher and its metrics can come to, with the steps taken, the
newest first. -/
inductive Run (settings : RefreshSettings) (since : Nat) : List Taken → Refresher → Metrics → Prop
  | start : Run settings since [] (start settings since) {}
  | step {taken : List Taken} {m after : Refresher} {metrics : Metrics} {reports : List Report}
      (now : Nat) (step : Step)
      (run : Run settings since taken m metrics) (htime : timeOf since taken ≤ now)
      (h : m.step now step = some (after, reports)) :
      Run settings since (⟨now, m, step⟩ :: taken) after (reports.foldl Metrics.note metrics)

lemma Run.settings_eq {settings : RefreshSettings} {since : Nat} {taken : List Taken}
    {m : Refresher} {metrics : Metrics} (run : Run settings since taken m metrics) :
    m.settings = settings := by
  induction run with
  | start => rfl
  | step now step run htime h ih => rw [(move_of_step h).settings_eq, ih]

end ClusterCost.Refresher
