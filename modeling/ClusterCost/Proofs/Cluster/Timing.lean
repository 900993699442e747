import ClusterCost.Proofs.Cluster.Run

/-!
# The clock in a run

A run is prompt if time never passes while something is due: a delay that is over, a loop that has
yet to start, a tick, or a loop that was told to stop and waits for a tick. Only for the backend
does time pass freely. `loopMove_of_move` lists what a step can do to the loop, with the starts and
finishes of its refreshes.
-/

namespace ClusterCost.Refresher

/-! ### Promptness -/

/-- Nothing that happens by itself is due before `now`, if it was not due at `last`. -/
structure Awaits (m : Refresher) (last now : Nat) : Prop where
  woken : ∀ w job time, m.job? w = some job → job.phase = .waiting time → now ≤ max last time
  begun : m.loop = .starting → now ≤ last
  ticked : ∀ due, m.loop = .idle due → now ≤ max last due
  left : ∀ due, m.loop = .idle due → m.stopping = true → now ≤ last

lemma mem_pendingAwaited {m : Refresher} {index : Nat} {job : Job}
    (h : m.requested[index]? = some job) (now : Nat) :
    pendingOf now (.requested index) job ∈ m.pendingAwaited now := by
  apply List.mem_append_left
  apply List.mem_of_getElem? (i := index)
  rw [List.getElem?_mapIdx, h, Option.map_some]

/-- It suffices that nothing of all that may come next by itself comes before `now`. -/
lemma awaits_of_pending {m : Refresher} {last now : Nat} (overtime : Nat)
    (h : ∀ p ∈ m.pendingAwaited last ++ m.pendingLoop last overtime, now ≤ max last p.1) :
    m.Awaits last now := by
  have hawaited : ∀ p ∈ m.pendingAwaited last, now ≤ max last p.1 :=
    fun p hp => h p (List.mem_append_left _ hp)
  have hloop : ∀ p ∈ m.pendingLoop last overtime, now ≤ max last p.1 :=
    fun p hp => h p (List.mem_append_right _ hp)
  have hwoken : ∀ w job time, job.phase = .waiting time → now ≤ max last (pendingOf last w job).1 →
      now ≤ max last time := by
    intro w job time hwaiting hnow
    rw [pendingOf, hwaiting] at hnow
    exact hnow
  constructor
  · intro w job time hjob hwaiting
    cases w with
    | requested index =>
      exact hwoken _ job time hwaiting (hawaited _ (mem_pendingAwaited hjob last))
    | loop =>
      rw [job?] at hjob
      cases hl : m.loop with
      | loading old =>
        obtain rfl : old = job := by simpa [hl] using hjob
        exact hwoken .loop old time hwaiting (hawaited _ (by simp [pendingAwaited, hl]))
      | refreshing due old =>
        obtain rfl : old = job := by simpa [hl] using hjob
        exact hwoken .loop old time hwaiting (hloop _ (by simp [pendingLoop, hl]))
      | _ => simp [hl] at hjob
  · intro hl
    simpa [pendingLoop, hl] using hloop
  · intro due hl
    by_cases hstopping : m.stopping = true
    · have hnow : now ≤ last := by
        by_cases hover : due ≤ last ∧ 0 < overtime <;>
          simpa [pendingLoop, hl, hstopping, hover] using hloop
      exact Nat.le_trans hnow (Nat.le_max_left _ _)
    · simpa [pendingLoop, hl, hstopping] using hloop
  · intro due hl hstopping
    by_cases hover : due ≤ last ∧ 0 < overtime <;>
      simpa [pendingLoop, hl, hstopping, hover] using hloop

/-- Each of these steps, the newest first, was taken before anything became overdue. -/
def Prompt (since : Nat) : List Taken → Prop
  | [] => True
  | t :: earlier => t.before.Awaits (timeOf since earlier) t.time ∧ Prompt since earlier

lemma awaits_self (m : Refresher) (now : Nat) : m.Awaits now now where
  woken _ _ time _ _ := Nat.le_max_left now time
  begun _ := Nat.le_refl now
  ticked due _ := Nat.le_max_left now due
  left _ _ _ := Nat.le_refl now

lemma Awaits.trans {m : Refresher} {last now later : Nat} (h : m.Awaits last now)
    (h' : m.Awaits now later) : m.Awaits last later where
  woken w job time hjob hwaiting := by
    have hnow := h.woken w job time hjob hwaiting
    have hlater := h'.woken w job time hjob hwaiting
    omega
  begun hl := Nat.le_trans (h'.begun hl) (h.begun hl)
  ticked due hl := by
    have hnow := h.ticked due hl
    have hlater := h'.ticked due hl
    omega
  left due hl hstopping := Nat.le_trans (h'.left due hl hstopping) (h.left due hl hstopping)

/-- A run without a stop in which nothing was late, at a time by which nothing is late. -/
structure Timed (settings : RefreshSettings) (since : Nat) (taken : List Taken) (m : Refresher)
    (metrics : Metrics) (now : Nat) : Prop where
  run : Run settings since taken m metrics
  prompt : Prompt since taken
  unstopped : ∀ t ∈ taken, t.step ≠ .stop
  reached : timeOf since taken ≤ now
  awaits : m.Awaits (timeOf since taken) now

section Timed

variable {settings : RefreshSettings} {since now later : Nat} {taken : List Taken}
  {m after : Refresher} {metrics : Metrics}

lemma timed_start (settings : RefreshSettings) (since : Nat) :
    Timed settings since [] (start settings since) {} since where
  run := .start
  prompt := trivial
  unstopped := by
    intro t ht
    cases ht
  reached := Nat.le_refl since
  awaits := awaits_self _ since

lemma Timed.wait (timed : Timed settings since taken m metrics now) (hlater : now ≤ later)
    (hawaits : m.Awaits now later) : Timed settings since taken m metrics later :=
  { timed with reached := Nat.le_trans timed.reached hlater, awaits := timed.awaits.trans hawaits }

lemma Timed.step {reports : List Report} (timed : Timed settings since taken m metrics now)
    (step : Step) (hstop : step ≠ .stop) (h : m.step now step = some (after, reports)) :
    Timed settings since (⟨now, m, step⟩ :: taken) after (reports.foldl Metrics.note metrics)
      now where
  run := .step now step timed.run timed.reached h
  prompt := ⟨timed.awaits, timed.prompt⟩
  unstopped := by
    intro t ht
    rcases List.mem_cons.mp ht with rfl | ht
    · exact hstop
    · exact timed.unstopped t ht
  reached := Nat.le_refl now
  awaits := awaits_self after now

end Timed

/-! ### Starts and finishes of the loop's refreshes -/

namespace Taken

/-- The time of the step, if it starts a refresh of the loop. -/
def start? (t : Taken) : Option Nat :=
  match t.step with
  | .tick => some t.time
  | _ => none

/-- The time of the step, if it finishes a refresh of the loop, be it the first load or one
that a tick has started. -/
def finish? (t : Taken) : Option Nat :=
  match t.step, t.before.job? .loop with
  | .answer .loop outcome _, some job =>
    match Retry.decide (Retry.limit t.before.settings.attempts) job.attempt outcome with
    | .finished _ => some t.time
    | .again => none
  | _, _ => none

end Taken

/-- The times at which the loop started refreshes, the oldest first. -/
def starts (taken : List Taken) : List Nat := (taken.filterMap Taken.start?).reverse

/-- The times at which refreshes of the loop finished, the oldest first. -/
def finishes (taken : List Taken) : List Nat := (taken.filterMap Taken.finish?).reverse

@[simp] lemma starts_nil : starts [] = [] := rfl

@[simp] lemma finishes_nil : finishes [] = [] := rfl

lemma starts_cons (t : Taken) (taken : List Taken) :
    starts (t :: taken) = starts taken ++ t.start?.toList := by
  cases h : t.start? <;> simp [starts, h]

lemma finishes_cons (t : Taken) (taken : List Taken) :
    finishes (t :: taken) = finishes taken ++ t.finish?.toList := by
  cases h : t.finish? <;> simp [finishes, h]

lemma mem_starts {taken : List Taken} {time : Nat} :
    time ∈ starts taken ↔ ∃ t ∈ taken, t.step = .tick ∧ t.time = time := by
  simp only [starts, List.mem_reverse, List.mem_filterMap]
  constructor
  · rintro ⟨t, ht, hstart⟩
    refine ⟨t, ht, ?_⟩
    rw [Taken.start?] at hstart
    split at hstart
    · rename_i hstep
      exact ⟨hstep, Option.some.inj hstart⟩
    · cases hstart
  · rintro ⟨t, ht, hstep, rfl⟩
    exact ⟨t, ht, by rw [Taken.start?, hstep]⟩

/-! ### The loop after a step -/

/-- What a step does to the loop. -/
inductive LoopMove (m : Refresher) (t : Taken) : Loop → Prop
  | same (hstart : t.start? = none) (hfinish : t.finish? = none) : LoopMove m t m.loop
  | loading (job job' : Job) (h : m.loop = .loading job) (hstart : t.start? = none)
      (hfinish : t.finish? = none) :
      LoopMove m t (.loading job')
  | refreshing (due : Nat) (job job' : Job) (h : m.loop = .refreshing due job)
      (hstart : t.start? = none)
      (hfinish : t.finish? = none) : LoopMove m t (.refreshing due job')
  | loaded (job : Job) (h : m.loop = .loading job) (hstart : t.start? = none)
      (hfinish : t.finish? = some t.time) :
      LoopMove m t .starting
  | finished (due : Nat) (job : Job) (h : m.loop = .refreshing due job) (hstart : t.start? = none)
      (hfinish : t.finish? = some t.time) : LoopMove m t (.idle due)
  | began (h : m.loop = .starting) (hstart : t.start? = none) (hfinish : t.finish? = none) :
      LoopMove m t (startLoop m.settings t.time)
  | ticked (due : Nat) (h : m.loop = .idle due) (hdue : due ≤ t.time)
      (hstart : t.start? = some t.time)
      (hfinish : t.finish? = none) :
      LoopMove m t (.refreshing (due + m.settings.interval) { startedAt := t.time })
  | left (due : Nat) (h : m.loop = .idle due) (hstopping : m.stopping = true)
      (hstart : t.start? = none)
      (hfinish : t.finish? = none) : LoopMove m t .ended

/-- The loop with another state of its refresh. -/
lemma loopMove_setJob (m : Refresher) {job : Job} {t : Taken} (hstart : t.start? = none)
    (hfinish : t.finish? = none) : LoopMove m t (m.setJob .loop job).loop := by
  rw [setJob]
  cases hl : m.loop with
  | loading old => exact .loading old job hl hstart hfinish
  | refreshing due old => exact .refreshing due old job hl hstart hfinish
  | _ => exact .same hstart hfinish

/-- The loop after its refresh has finished. -/
lemma loopMove_finish {m m' : Refresher} {job : Job} (hjob : m.job? .loop = some job)
    (hm : m'.loop = m.loop) {t : Taken} (hstart : t.start? = none)
    (hfinish : t.finish? = some t.time) : LoopMove m t (m'.finish .loop).loop := by
  rw [job?] at hjob
  rw [finish, hm]
  cases hl : m.loop with
  | loading old => exact .loaded old hl hstart hfinish
  | refreshing due old => exact .finished due old hl hstart hfinish
  | _ => simp [hl] at hjob

lemma loopMove_of_move {m after : Refresher} {now : Nat} {step : Step} {reports : List Report}
    (move : Move m now step after reports) : LoopMove m ⟨now, m, step⟩ after.loop := by
  cases move with
  | requested h => exact .same rfl rfl
  | responded w job rows identity hjob hasking =>
    cases w with
    | loop =>
      have hfinish : Taken.finish? ⟨now, m, .answer .loop (.ok rows) identity⟩ = some now := by
        simp [Taken.finish?, hjob, Retry.decide]
      have hloop : (m.load (now - job.startedAt) rows identity).1.loop = m.loop := rfl
      exact loopMove_finish hjob hloop rfl hfinish
    | requested index => exact .same rfl rfl
  | gaveUp w job e identity hjob hasking hlast =>
    cases w with
    | loop =>
      have hfinish : Taken.finish? ⟨now, m, .answer .loop (.error e) identity⟩ = some now := by
        simp [Taken.finish?, hjob, Retry.decide, hlast]
      exact loopMove_finish hjob rfl rfl hfinish
    | requested index => exact .same rfl rfl
  | again w job e identity hjob hasking hmore =>
    cases w with
    | loop =>
      have hfinish : Taken.finish? ⟨now, m, .answer .loop (.error e) identity⟩ = none := by
        simp [Taken.finish?, hjob, Retry.decide, Nat.not_le.mpr hmore]
      exact loopMove_setJob m rfl hfinish
    | requested index => exact .same rfl rfl
  | woke w job time hjob hwaiting hover =>
    cases w with
    | loop => exact loopMove_setJob m rfl rfl
    | requested index => exact .same rfl rfl
  | began h => exact .began h rfl rfl
  | ticked due h hdue => exact .ticked due h hdue rfl rfl
  | stopped => exact .same rfl rfl
  | left due h hstopping => exact .left due h hstopping rfl rfl

end ClusterCost.Refresher
