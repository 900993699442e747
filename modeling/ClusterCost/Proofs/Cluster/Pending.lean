import ClusterCost.Proofs.Cluster.Timing

/-!
# What a refresher does by itself

Whatever is pending can happen when its time comes, and it lowers the bound of the steps that are
left up to a horizon. So the bound is enough for all of them (`happens_of_pends`).
-/

namespace ClusterCost

/-! ### Totals -/

section Totals

variable {α : Type} (f : α → Nat)

lemma foldr_add_set {l : List α} {i : Nat} {old : α} (h : l[i]? = some old) (new : α) :
    (l.set i new).foldr (fun a total => f a + total) 0 + f old =
      l.foldr (fun a total => f a + total) 0 + f new := by
  induction l generalizing i with
  | nil => simp at h
  | cons a rest ih =>
    cases i with
    | zero =>
      obtain rfl : a = old := by simpa using h
      simp only [List.set_cons_zero, List.foldr_cons]
      omega
    | succ i =>
      have hrest := ih (i := i) (by simpa using h)
      simp only [List.set_cons_succ, List.foldr_cons]
      omega

lemma foldr_add_eraseIdx {l : List α} {i : Nat} {old : α} (h : l[i]? = some old) :
    (l.eraseIdx i).foldr (fun a total => f a + total) 0 + f old =
      l.foldr (fun a total => f a + total) 0 := by
  induction l generalizing i with
  | nil => simp at h
  | cons a rest ih =>
    cases i with
    | zero =>
      obtain rfl : a = old := by simpa using h
      simp only [List.eraseIdx_cons_zero, List.foldr_cons]
      omega
    | succ i =>
      have hrest := ih (i := i) (by simpa using h)
      simp only [List.eraseIdx_cons_succ, List.foldr_cons]
      omega

lemma foldr_add_le {f g : α → Nat} (h : ∀ a, f a ≤ g a) (l : List α) :
    l.foldr (fun a total => f a + total) 0 ≤ l.foldr (fun a total => g a + total) 0 := by
  induction l with
  | nil => exact Nat.le_refl _
  | cons a rest ih => exact Nat.add_le_add (h a) ih

end Totals

namespace Refresher

/-! ### The bound as time passes -/

section Bounds

variable (s : RefreshSettings) {m : Refresher} {now later horizon due due' : Nat}

lemma jobSteps_pos (job : Job) : 0 < jobSteps s job := by
  rw [jobSteps]
  cases job.phase <;> exact Nat.succ_pos _

lemma limit_pos (attempts : Nat) : 0 < Retry.limit attempts := Nat.le_max_right attempts 1

lemma ticksUpTo_anti (h : due ≤ due') : ticksUpTo s due' horizon ≤ ticksUpTo s due horizon := by
  rw [ticksUpTo, ticksUpTo]
  split_ifs with hnext hfirst
  · exact Nat.succ_le_succ (Nat.div_le_div_right (Nat.sub_le_sub_left h horizon))
  · omega
  · exact Nat.zero_le _
  · exact Nat.le_refl _

/-- A tick up to the horizon is one of them. -/
lemma ticksUpTo_next (h : due ≤ horizon) :
    ticksUpTo s (due + s.interval) horizon < ticksUpTo s due horizon := by
  rw [ticksUpTo, ticksUpTo, if_pos h]
  split_ifs with hnext
  · have hsub : horizon - due = horizon - (due + s.interval) + s.interval := by omega
    rw [hsub, Nat.add_div_right _ s.interval_pos]
    exact Nat.lt_succ_self _
  · exact Nat.succ_pos _

lemma idleSteps_anti (h : due ≤ due') : idleSteps s due' horizon ≤ idleSteps s due horizon :=
  Nat.succ_le_succ (Nat.mul_le_mul_right _ (ticksUpTo_anti s h))

/-- A tick leaves room for all that its refresh does. -/
lemma idleSteps_next (h : due ≤ horizon) (startedAt : Nat) :
    jobSteps s { startedAt } + idleSteps s (due + s.interval) horizon <
      idleSteps s due horizon := by
  have hlimit := limit_pos s.attempts
  have hticks := Nat.mul_le_mul_right (2 * Retry.limit s.attempts)
    (Nat.succ_le_of_lt (ticksUpTo_next s h))
  rw [Nat.succ_mul] at hticks
  simp only [jobSteps, idleSteps]
  omega

lemma stepBound_anti (h : now ≤ later) : m.stepBound later horizon ≤ m.stepBound now horizon := by
  have hnext : now + m.settings.interval ≤ later + m.settings.interval := Nat.add_le_add_right h _
  apply Nat.add_le_add_left
  rw [loopSteps, loopSteps]
  cases m.loop with
  | loading job => exact Nat.add_le_add_left (Nat.succ_le_succ (idleSteps_anti m.settings hnext)) _
  | starting => exact Nat.succ_le_succ (idleSteps_anti m.settings hnext)
  | _ => exact Nat.le_refl _

end Bounds

/-! ### The bound after a step -/

section Steps

variable {m m' after : Refresher} {now horizon time overtime : Nat} {w : Worker} {job job' : Job}
  {p : Pending}

lemma stepBound_setJob (hjob : m.job? w = some job)
    (hless : jobSteps m.settings job' < jobSteps m.settings job) :
    (m.setJob w job').stepBound now horizon < m.stepBound now horizon := by
  cases w with
  | loop =>
    rw [job?] at hjob
    rw [setJob]
    cases hl : m.loop with
    | loading old =>
      obtain rfl : old = job := by simpa [hl] using hjob
      simp only [stepBound, loopSteps, hl]
      omega
    | refreshing due old =>
      obtain rfl : old = job := by simpa [hl] using hjob
      simp only [stepBound, loopSteps, hl]
      omega
    | _ => simp [hl] at hjob
  | requested index =>
    have htotal := foldr_add_set (jobSteps m.settings) hjob job'
    show _ + m.loopSteps now horizon < _ + m.loopSteps now horizon
    simp only [setJob] at htotal ⊢
    omega

lemma stepBound_finish (hjob : m.job? w = some job) (hsettings : m'.settings = m.settings)
    (hloop : m'.loop = m.loop) (hrequested : m'.requested = m.requested) :
    (m'.finish w).stepBound now horizon < m.stepBound now horizon := by
  have hpos := jobSteps_pos m.settings job
  cases w with
  | loop =>
    rw [job?] at hjob
    rw [finish]
    cases hl : m.loop with
    | loading old =>
      obtain rfl : old = job := by simpa [hl] using hjob
      simp only [stepBound, loopSteps, hl, hloop, hsettings, hrequested]
      omega
    | refreshing due old =>
      obtain rfl : old = job := by simpa [hl] using hjob
      simp only [stepBound, loopSteps, hl, hloop, hsettings, hrequested]
      omega
    | _ => simp [hl] at hjob
  | requested index =>
    have htotal := foldr_add_eraseIdx (jobSteps m.settings) hjob
    simp only [finish, stepBound, loopSteps, hsettings, hloop, hrequested]
    omega

/-- Every step but a request and a stop brings a refresher closer to having nothing to do up to a
horizon, a tick if that is due by the horizon. -/
lemma stepBound_move {step : Step} {reports : List Report} (move : Move m now step after reports)
    (hrequest : step ≠ .request) (hstop : step ≠ .stop)
    (htick : ∀ due, step = .tick → m.loop = .idle due → due ≤ horizon) :
    after.stepBound now horizon < m.stepBound now horizon := by
  cases move with
  | requested h => exact absurd rfl hrequest
  | responded w job rows identity hjob hasking => exact stepBound_finish hjob rfl rfl rfl
  | gaveUp w job e identity hjob hasking hlast => exact stepBound_finish hjob rfl rfl rfl
  | again w job e identity hjob hasking hmore =>
    refine stepBound_setJob hjob ?_
    simp only [jobSteps, hasking]
    omega
  | woke w job time hjob hwaiting hover =>
    refine stepBound_setJob hjob ?_
    simp only [jobSteps, hwaiting]
    exact Nat.lt_succ_self _
  | began h =>
    simp only [stepBound, loopSteps, startLoop, h]
    apply Nat.add_lt_add_left
    split_ifs
    · exact Nat.succ_pos _
    · exact Nat.lt_succ_self _
  | ticked due h hdue =>
    have hnext := idleSteps_next m.settings (htick due rfl h) now
    simp only [stepBound, loopSteps, h]
    omega
  | stopped => exact absurd rfl hstop
  | left due h hstopping =>
    simp only [stepBound, loopSteps, h]
    exact Nat.add_lt_add_left (Nat.succ_pos _) _

/-! ### What is pending can happen -/

/-- That a step is what was pending. -/
inductive Pending.Is : Pending → Step → Prop
  | asks (w : Worker) (outcome : Except QueryError (List Series)) (identity : Dictionary String) :
      Is (.asks w) (.answer w outcome identity)
  | wakes (w : Worker) : Is (.wakes w) (.wake w)
  | begins : Is .begins .begin
  | ticks : Is .ticks .tick
  | leaves : Is .leaves .leave

lemma Pending.Is.ne_request {step : Step} (h : p.Is step) : step ≠ .request := by
  cases h <;> simp

lemma Pending.Is.ne_stop {step : Step} (h : p.Is step) : step ≠ .stop := by
  cases h <;> simp

/-- What is pending at a time, and when it is due. -/
inductive Pends (m : Refresher) (now : Nat) : Nat → Pending → Prop
  | asks (w : Worker) (job : Job) (hjob : m.job? w = some job) (hasking : job.phase = .asking) :
      Pends m now now (.asks w)
  | wakes (w : Worker) (job : Job) (time : Nat) (hjob : m.job? w = some job)
      (hwaiting : job.phase = .waiting time) :
      Pends m now time (.wakes w)
  | begins (h : m.loop = .starting) : Pends m now now .begins
  | ticks (due time : Nat) (h : m.loop = .idle due) (hdue : due ≤ time) : Pends m now time .ticks
  | leaves (due : Nat) (h : m.loop = .idle due) (hstopping : m.stopping = true) :
      Pends m now now .leaves

lemma pends_pendingOf (hjob : m.job? w = some job) (now : Nat) :
    Pends m now (pendingOf now w job).1 (pendingOf now w job).2 := by
  rw [pendingOf]
  cases hphase : job.phase with
  | asking => exact .asks w job hjob hphase
  | waiting time => exact .wakes w job time hjob hphase

lemma pends_of_mem (h : (time, p) ∈ m.pendingAwaited now ++ m.pendingLoop now overtime) :
    Pends m now time p := by
  rcases List.mem_append.mp h with hawaited | hloop
  · rcases List.mem_append.mp hawaited with hrequested | hloading
    · obtain ⟨index, hindex, heq⟩ := List.mem_mapIdx.mp hrequested
      have hpends := pends_pendingOf (m := m) (w := .requested index)
        (List.getElem?_eq_getElem hindex) now
      rw [heq] at hpends
      exact hpends
    · cases hl : m.loop with
      | loading job =>
        have hjob : m.job? .loop = some job := by rw [job?, hl]
        simp only [hl, List.mem_singleton] at hloading
        have hpends := pends_pendingOf hjob now
        rw [← hloading] at hpends
        exact hpends
      | _ => simp [hl] at hloading
  · cases hl : m.loop with
    | refreshing due job =>
      have hjob : m.job? .loop = some job := by rw [job?, hl]
      simp only [pendingLoop, hl, List.mem_singleton] at hloop
      have hpends := pends_pendingOf hjob now
      rw [← hloop] at hpends
      exact hpends
    | starting =>
      simp only [pendingLoop, hl, List.mem_singleton, Prod.mk.injEq] at hloop
      obtain ⟨rfl, rfl⟩ := hloop
      exact .begins hl
    | idle due =>
      simp only [pendingLoop, hl] at hloop
      split_ifs at hloop with hgoing hover
      · obtain ⟨rfl, rfl⟩ : time = due ∧ p = .ticks := by simpa using hloop
        exact .ticks _ _ hl (Nat.le_refl _)
      · obtain ⟨rfl, rfl⟩ : time = now ∧ p = .ticks := by simpa using hloop
        have hdue : due ≤ time ∧ 0 < overtime := by simpa using hover
        exact .ticks due _ hl hdue.1
      · obtain ⟨rfl, rfl⟩ : time = now ∧ p = .leaves := by simpa using hloop
        exact .leaves due hl (by simpa using hgoing)
    | _ => simp [pendingLoop, hl] at hloop

/-- What is pending can happen at any time from its own on. -/
lemma isSome_step_of_pends {later : Nat} {step : Step} (pends : Pends m now time p)
    (htime : time ≤ later) (his : p.Is step) : (m.step later step).isSome = true := by
  cases his with
  | asks w outcome identity =>
    cases pends with
    | asks w job hjob hasking => simp [Refresher.step, hjob, hasking]
  | wakes w =>
    cases pends with
    | wakes w job time hjob hwaiting => simp [Refresher.step, hjob, hwaiting, htime]
  | begins =>
    cases pends with
    | begins h => simp [Refresher.step, h]
  | ticks =>
    cases pends with
    | ticks due time h hdue => simp [Refresher.step, h, Nat.le_trans hdue htime]
  | leaves =>
    cases pends with
    | leaves due h hstopping => simp [Refresher.step, h, hstopping]

/-- What is pending by a horizon happens when its time comes, and fewer steps are left after it. -/
lemma happens_of_pends {later : Nat} {step : Step} (pends : Pends m now time p)
    (htime : time ≤ later) (hhorizon : time ≤ horizon) (his : p.Is step) :
    ∃ after reports, m.step later step = some (after, reports) ∧
      after.stepBound later horizon < m.stepBound later horizon := by
  obtain ⟨⟨after, reports⟩, h⟩ := Option.isSome_iff_exists.mp (isSome_step_of_pends pends htime his)
  refine ⟨after, reports, h, stepBound_move (move_of_step h) his.ne_request his.ne_stop ?_⟩
  intro due hstep hl
  cases his with
  | ticks =>
    cases pends with
    | ticks due' time h hdue =>
      obtain rfl : due' = due := by simpa [h] using hl
      exact Nat.le_trans hdue hhorizon
  | _ => cases hstep

end Steps

end Refresher

end ClusterCost
