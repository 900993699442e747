import ClusterCost.Proofs.Cluster.Schedule
import ClusterCost.Proofs.Service.Passage

/-!
# The refreshes of a service's map

Whatever a service does, short of stopping its map, the map's refresher goes through a run in which
nothing is late (`isTraced_of_course`). So its refreshes keep their schedule.
-/

namespace ClusterCost.Service

open Refresher (Taken Timed Schedule starts finishes)

/-! ### What happens to the current map -/

section Steps

variable {settings : RefreshSettings} {since horizon : Nat} {s after : Service} {taken : List Taken}
  {m : Refresher} {metrics : Metrics}

/-- The refresher of the current map has gone through these steps, and none of them was late. -/
structure Traces (settings : RefreshSettings) (since : Nat) (s : Service) (taken : List Taken)
    (m : Refresher) (metrics : Metrics) : Prop where
  current : s.refresher? = some m
  timed : Timed settings since taken m metrics s.now

/-- The refresher of the current map has gone through a run in which nothing was late. -/
def IsTraced (settings : RefreshSettings) (since : Nat) (s : Service) : Prop :=
  ∃ taken m metrics, Traces settings since s taken m metrics

lemma IsTraced.congr (h : IsTraced settings since s) (hmap : after.refresher? = s.refresher?)
    (hnow : after.now = s.now) : IsTraced settings since after := by
  obtain ⟨taken, m, metrics, current, timed⟩ := h
  exact ⟨taken, m, metrics, hmap.trans current, hnow ▸ timed⟩

lemma refresher?_notes (s : Service) (map : ClusterMap) (reports : List Report) :
    (reports.foldl (fun s report => s.note map report) s).refresher? = s.refresher? := by
  refine foldl_note (f := refresher?) ?_ s map reports
  intro s map report
  simp [refresher?]

lemma Traces.stepMap (h : Traces settings since s taken m metrics) {step : Refresher.Step}
    (hstop : step ≠ .stop) {next : Refresher} {reports : List Report}
    (hstep : m.step s.now step = some (next, reports)) :
    Traces settings since (s.stepMap .current step) (⟨s.now, m, step⟩ :: taken) next
      (reports.foldl Metrics.note metrics) := by
  obtain ⟨map, hmap, rfl⟩ := refresher?_eq_some h.current
  have hs := stepMap_eq .current hmap hstep
  constructor
  · rw [hs, refresher?_notes]
    rfl
  · rw [now_stepMap]
    exact h.timed.step step hstop hstep

lemma IsTraced.stepMap (h : IsTraced settings since s) {step : Refresher.Step}
    (hstop : step ≠ .stop) : IsTraced settings since (s.stepMap .current step) := by
  obtain ⟨taken, m, metrics, traces⟩ := h
  cases hstep : m.step s.now step with
  | none =>
    obtain ⟨map, hmap, rfl⟩ := refresher?_eq_some traces.current
    rw [stepMap_eq_self .current hmap hstep]
    exact ⟨taken, _, metrics, traces⟩
  | some result => exact ⟨_, _, _, traces.stepMap hstop hstep⟩

lemma refresher?_stepMap_retired (s : Service) (index : Nat) (step : Refresher.Step) :
    (s.stepMap (.retired index) step).refresher? = s.refresher? := by
  rw [stepMap]
  split
  · rfl
  · split
    · rfl
    · rw [refresher?_notes]
      rfl

/-- Up to the time of what is pending first the current map has nothing due. -/
lemma IsTraced.wait (h : IsTraced settings since s) {later : Nat} (hlater : s.now ≤ later)
    (hpending : ∀ p ∈ s.pending, later ≤ max s.now p.1) :
    IsTraced settings since { s with now := later } := by
  obtain ⟨taken, m, metrics, current, timed⟩ := h
  obtain ⟨map, hmap, rfl⟩ := refresher?_eq_some current
  refine ⟨taken, _, metrics, current,
    timed.wait hlater (Refresher.awaits_of_pending map.overtime ?_)⟩
  rintro ⟨time, p⟩ hp
  have href : MapRef.current ∈ s.refs := by simp [refs, hmap]
  exact hpending (time, .current, p) (mem_pending.mpr ⟨href, map, hmap, hp⟩)

lemma IsTraced.stepBy? (h : IsTraced settings since s) (hs : s.stepBy? horizon = some after) :
    IsTraced settings since after := by
  obtain ⟨time, ref, m, p, before, step, -, hearliest, -, -, same, his, rfl⟩ :=
    happens_of_stepBy? hs
  have hwait : IsTraced settings since (s.atTime time) := by
    refine h.wait (Nat.le_max_left s.now time) ?_
    intro q hq
    exact Nat.max_le.mpr ⟨Nat.le_max_left _ _, Nat.le_trans (hearliest q hq) (Nat.le_max_right _ _)⟩
  have hbefore := hwait.congr same.current same.now
  cases ref with
  | current => exact hbefore.stepMap his.ne_stop
  | retired index =>
    exact hbefore.congr (refresher?_stepMap_retired before index step) (now_stepMap before _ step)

lemma IsTraced.passes (h : IsTraced settings since s) (passes : Passes horizon s after) :
    IsTraced settings since after :=
  passes.keeps (fun _ _ h hs => h.stepBy? hs) h

lemma IsTraced.advance (h : IsTraced settings since s) (milliseconds : Nat) :
    IsTraced settings since (s.advance milliseconds) := by
  obtain ⟨last, passes, hdone, heq⟩ := advance_eq s milliseconds
  rw [heq]
  refine (h.passes passes).wait (passes.now_le (Nat.le_add_right _ _)) ?_
  intro p hp
  exact Nat.le_trans (Nat.le_of_lt (stepBy?_eq_none.mp hdone p hp)) (Nat.le_max_right _ _)

end Steps

/-! ### Whole courses -/

/-- What may become of a service if its map is not told to stop: time passes, in parts of any length
or from one thing that is pending to the next, refreshes are asked for, and anything else changes
that is no matter of the map's refresher. -/
inductive Course (begin : Service) : Service → Prop
  | start : Course begin begin
  | advance {s : Service} (milliseconds : Nat) (course : Course begin s) :
      Course begin (s.advance milliseconds)
  | happen {s after : Service} (horizon : Nat) (course : Course begin s)
      (h : s.stepBy? horizon = some after) : Course begin after
  | request {s : Service} (course : Course begin s) : Course begin (s.stepMap .current .request)
  | change {s after : Service} (course : Course begin s) (hmap : after.refresher? = s.refresher?)
      (hnow : after.now = s.now) :
      Course begin after

section Courses

variable {s₀ s after : Service} {p : MapPlan} {horizon : Nat}

lemma Course.passes (course : Course s₀ s) (passes : Passes horizon s after) : Course s₀ after :=
  passes.keeps (fun _ _ course hs => course.happen horizon hs) course

lemma Course.run (course : Course s₀ s) (horizon : Nat) (done : Service → Bool) :
    Course s₀ (s.run horizon done) :=
  course.passes (passes_run s horizon done).1

/-- Waiting for the first load is part of the course. -/
lemma Course.awaitMap (course : Course s₀ s) : Course s₀ s.awaitMap := (course.run _ _).run _ _

/-- A refresh that is asked for and waited for is part of the course. -/
lemma Course.refresh (course : Course s₀ s) : Course s₀ s.refresh :=
  (course.request.run _ _).run _ _

lemma now_placeMap (s : Service) (p : MapPlan) : (s.placeMap p).now = s.now := by
  have hretire : s.retire.now = s.now := now_stepMap s .current .stop
  rw [placeMap]
  split_ifs <;> exact hretire

lemma isTraced_placeMap (s : Service) (p : MapPlan) : IsTraced p.settings s.now (s.placeMap p) := by
  have hcurrent : (s.placeMap p).refresher? = some (.start p.settings (s.placeMap p).now) := rfl
  have timed := Refresher.timed_start p.settings (s.placeMap p).now
  rw [now_placeMap] at hcurrent timed
  exact ⟨[], _, {}, hcurrent, by rw [now_placeMap]; exact timed⟩

lemma isTraced_of_course (course : Course (s₀.placeMap p) s) : IsTraced p.settings s₀.now s := by
  induction course with
  | start => exact isTraced_placeMap s₀ p
  | advance milliseconds course ih => exact ih.advance milliseconds
  | happen horizon course h ih => exact ih.stepBy? h
  | request course ih => exact ih.stepMap nofun
  | change course hmap hnow ih => exact ih.congr hmap hnow

/-- Time may pass in any number of parts. -/
lemma foldl_advance (s : Service) (first : Nat) (rest : List Nat) :
    (first :: rest).foldl advance s = s.advance (rest.foldl (· + ·) first) := by
  induction rest generalizing first with
  | nil => rfl
  | cons second rest ih =>
    rw [List.foldl_cons, List.foldl_cons, ← advance_add, List.foldl_cons]
    exact ih (first + second)

/-- The refreshes of a map's loop keep their schedule: the first is due one interval after the
first load, and each starts when it is due or, if that is later, when the one before it has
finished. This holds of every run without a stop in which nothing is late, however long the
queries take, and a service never makes its map late; nor does it matter to the service in how
many parts time passes. -/
theorem schedule_of_course :
    (∀ {settings since taken m metrics now}, Timed settings since taken m metrics now →
      Schedule settings (starts taken) (finishes taken) m now) ∧
    (∀ {s₀ s : Service} {p : MapPlan}, Course (s₀.placeMap p) s →
      ∃ taken m metrics, Traces p.settings s₀.now s taken m metrics ∧
        Schedule p.settings (starts taken) (finishes taken) m s.now) ∧
    ∀ (s : Service) (first : Nat) (rest : List Nat),
      (first :: rest).foldl advance s = s.advance (rest.foldl (· + ·) first) := by
  refine ⟨Refresher.schedule_of_timed, ?_, foldl_advance⟩
  intro s₀ s p course
  obtain ⟨taken, m, metrics, traces⟩ := isTraced_of_course course
  exact ⟨taken, m, metrics, traces, Refresher.schedule_of_timed traces.timed⟩

/-- A refresh that takes longer than two intervals: the two ticks that have come due by its end
start one after the other then. -/
theorem schedule_of_course_overdue :
    let settings : RefreshSettings :=
      { ownId := "one", interval := 1000, attempts := 2, delay := 2500 }
    let p : MapPlan := { ownId := "one", interval := some 1000, attempts := 2, delay := 2500 }
    let s₀ : Service :=
      { clusterId := "one", files := .empty "/", provider := ⟨"one", .inMemory .default, .empty⟩ }
    (∃ taken m metrics, Timed settings 0 taken m metrics 3999 ∧
      Schedule settings (starts taken) (finishes taken) m 3999 ∧
      m.loop = .idle 4000 ∧ starts taken = [1000, 3500, 3500] ∧
      finishes taken = [0, 3500, 3500, 3500]) ∧
    (∃ taken m metrics, Traces p.settings 0 ((s₀.buildMap p).refresh.advance 3999) taken m metrics ∧
      Schedule p.settings (starts taken) (finishes taken) m
        ((s₀.buildMap p).refresh.advance 3999).now) ∧
    [1000, 2000, 999].foldl advance s₀ = s₀.advance 3999 := by
  intro settings p s₀
  obtain ⟨schedule, course, parts⟩ := schedule_of_course
  refine ⟨?_, ?_, parts s₀ 1000 [2000, 999]⟩
  · have loaded : Timed settings 0 _ { settings, loop := .starting } _ 0 :=
      (Refresher.timed_start settings 0).step (.answer .loop (.ok []) .empty) nofun rfl
    have begun : Timed settings 0 _ { settings, loop := .idle 1000 } _ 0 :=
      loaded.step .begin nofun rfl
    have first :
        Timed settings 0 _ { settings, loop := .refreshing 2000 { startedAt := 1000 } } _ 1000 :=
      (begun.wait (by decide) (Refresher.awaits_of_pending 0 (by decide))).step .tick nofun rfl
    have waiting : Timed settings 0 _
        { settings,
          loop := .refreshing 2000
            { startedAt := 1000, attempt := 2, phase := .waiting 3500 } } _ 1000 :=
      first.step (.answer .loop (.error .transport) .empty) nofun rfl
    have woken :
        Timed settings 0 _
          { settings, loop := .refreshing 2000 { startedAt := 1000, attempt := 2 } } _ 3500 :=
      (waiting.wait (by decide) (Refresher.awaits_of_pending 0 (by decide))).step
        (.wake .loop) nofun rfl
    have gaveUp : Timed settings 0 _ { settings, loop := .idle 2000 } _ 3500 :=
      woken.step (.answer .loop (.error .transport) .empty) nofun rfl
    have second :
        Timed settings 0 _ { settings, loop := .refreshing 3000 { startedAt := 3500 } } _ 3500 :=
      gaveUp.step .tick nofun rfl
    have answered : Timed settings 0 _ { settings, loop := .idle 3000 } _ 3500 :=
      second.step (.answer .loop (.ok []) .empty) nofun rfl
    have third :
        Timed settings 0 _ { settings, loop := .refreshing 4000 { startedAt := 3500 } } _ 3500 :=
      answered.step .tick nofun rfl
    have idle : Timed settings 0 _ { settings, loop := .idle 4000 } _ 3500 :=
      third.step (.answer .loop (.ok []) .empty) nofun rfl
    have last := idle.wait (by decide : 3500 ≤ 3999) (Refresher.awaits_of_pending 0 (by decide))
    exact ⟨_, _, _, last, schedule last, rfl, rfl, rfl⟩
  · exact @course s₀ _ p (.advance 3999 (.refresh (.awaitMap .start)))

end Courses

end ClusterCost.Service
