import ClusterCost.Proofs.Cluster.Integrity
import ClusterCost.Proofs.Cluster.Timing

/-!
# What stopping comes to

A loop that is told to stop looks for that only between its refreshes, and if a tick is overdue
then, it may take that tick first. So after a stop another refresh can start (`starts_after_stop`),
but only at the very moment at which one finishes, and only if a tick came due while that one was
under way. If none did, at most the refresh in flight finishes, and then the loop ends; after that
nothing changes unless a refresh is asked for (`windsDown_of_stop`).
-/

namespace ClusterCost

namespace Loop

/-- The number of refreshes of the loop that are under way. -/
def inFlight : Loop → Nat
  | loading _ | refreshing .. => 1
  | starting | idle _ | ended => 0

/-- Whether the loop has no refresh under way, but may still start one. -/
def isPaused : Loop → Bool
  | starting | idle _ => true
  | loading _ | refreshing .. | ended => false

end Loop

namespace Refresher

/-! ### Steps from a state on -/

/-- The states that a refresher and its metrics can come to from a state at a time, with the steps
taken, the newest first. -/
inductive Steps (since : Nat) (m : Refresher) (metrics : Metrics) :
    List Taken → Refresher → Metrics → Prop
  | refl : Steps since m metrics [] m metrics
  | step {taken : List Taken} {before after : Refresher} {measured : Metrics}
      {reports : List Report} (now : Nat) (step : Step)
      (steps : Steps since m metrics taken before measured) (htime : timeOf since taken ≤ now)
      (h : before.step now step = some (after, reports)) :
      Steps since m metrics (⟨now, before, step⟩ :: taken) after
        (reports.foldl Metrics.note measured)

section Steps

variable {since : Nat} {m after : Refresher} {metrics measured : Metrics} {taken : List Taken}

lemma Steps.settings_eq (steps : Steps since m metrics taken after measured) :
    after.settings = m.settings := by
  induction steps with
  | refl => rfl
  | step now step steps htime h ih => rw [(move_of_step h).settings_eq, ih]

lemma Steps.stopping (steps : Steps since m metrics taken after measured) (hm : m.stopping = true) :
    after.stopping = true := by
  induction steps with
  | refl => exact hm
  | step now step steps htime h ih =>
    by_cases hstop : step = .stop
    · subst hstop
      cases move_of_step h
      rfl
    · exact ((move_of_step h).stopping_eq hstop).trans ih

/-- The snapshot is that of the latest response, or what it was before if there was none. -/
lemma Steps.snapshot (steps : Steps since m metrics taken after measured) :
    after.snapshot = (taken.findSome? Taken.response?).elim m.snapshot (snapshotOf m.settings) := by
  induction steps with
  | refl => rfl
  | step now step steps htime h ih =>
    have hsnapshot := (effect_of_move (move_of_step h) metrics).snapshot
    rw [List.findSome?_cons]
    cases hr : Taken.response? ⟨now, _, step⟩ with
    | none => rw [hsnapshot, hr, Option.elim_none, ih]
    | some response => rw [hsnapshot, hr, Option.elim_some, Option.elim_some, steps.settings_eq]

/-- Refreshes of the loop that finish have been in flight or have been started. -/
lemma Steps.inFlight (steps : Steps since m metrics taken after measured) :
    (finishes taken).length + after.loop.inFlight = m.loop.inFlight + (starts taken).length := by
  induction steps with
  | refl => simp
  | @step taken before after measured reports now step steps htime h ih =>
    have move := loopMove_of_move (move_of_step h)
    rw [starts_cons, finishes_cons, List.length_append, List.length_append]
    generalize after.loop = loop at move ⊢
    cases move with
    | same hstart hfinish => simpa [hstart, hfinish] using ih
    | loading job job' hl hstart hfinish => simpa [hl, hstart, hfinish, Loop.inFlight] using ih
    | refreshing due job job' hl hstart hfinish =>
      simpa [hl, hstart, hfinish, Loop.inFlight] using ih
    | loaded job hl hstart hfinish => simpa [hl, hstart, hfinish, Loop.inFlight] using ih
    | finished due job hl hstart hfinish => simpa [hl, hstart, hfinish, Loop.inFlight] using ih
    | began hl hstart hfinish =>
      have hbegun : ∀ s time, (startLoop s time).inFlight = 0 := by
        intro s time
        rw [startLoop]
        split_ifs <;> rfl
      simp only [hstart, hfinish, hbegun, Option.toList_none, List.length_nil, Nat.add_zero]
      rw [hl] at ih
      exact ih
    | ticked due hl hdue hstart hfinish =>
      simp only [hl, Loop.inFlight] at ih
      simp only [hstart, hfinish, Loop.inFlight, Option.toList_none, Option.toList_some,
        List.length_nil, List.length_singleton]
      omega
    | left due hl hstopping hstart hfinish => simpa [hl, hstart, hfinish, Loop.inFlight] using ih

/-! ### After a stop -/

/-- A loop that is paused and told to stop lets no time pass. -/
lemma Awaits.paused {last now : Nat} (h : m.Awaits last now) (hstopping : m.stopping = true)
    (hpaused : m.loop.isPaused = true) : now ≤ last := by
  cases hl : m.loop with
  | starting => exact h.begun hl
  | idle due => exact h.left due hl hstopping
  | _ => simp [hl, Loop.isPaused] at hpaused

/-- A loop that was told to stop is paused only at that time, or at the time at which its
last refresh has finished. -/
lemma Steps.paused_at (steps : Steps since m metrics taken after measured) (hm : m.stopping = true)
    (prompt : Prompt since taken) (hpaused : after.loop.isPaused = true) :
    timeOf since taken ∈ since :: finishes taken := by
  induction steps with
  | refl => exact List.mem_cons_self
  | @step taken before after measured reports now step steps htime h ih =>
    obtain ⟨hawaits, prompt⟩ := prompt
    have hearlier : before.loop.isPaused = true →
        now ∈ since :: finishes (⟨now, before, step⟩ :: taken) := by
      intro hbefore
      have hnow : now = timeOf since taken :=
        Nat.le_antisymm (hawaits.paused (steps.stopping hm) hbefore) htime
      rw [finishes_cons, ← List.cons_append, hnow]
      exact List.mem_append_left _ (ih prompt hbefore)
    have hnow : Taken.finish? ⟨now, before, step⟩ = some now →
        now ∈ since :: finishes (⟨now, before, step⟩ :: taken) := by
      intro hfinish
      rw [finishes_cons, hfinish]
      simp
    have move := loopMove_of_move (move_of_step h)
    rw [timeOf]
    generalize after.loop = loop at move hpaused
    cases move with
    | same hstart hfinish => exact hearlier hpaused
    | loaded job hl hstart hfinish => exact hnow hfinish
    | finished due job hl hstart hfinish => exact hnow hfinish
    | began hl hstart hfinish => exact hearlier (by rw [hl]; rfl)
    | _ => cases hpaused

/-- A refresh that the loop starts after a stop was overdue, and it starts when the one
before it has finished. -/
lemma Steps.tick_overdue (steps : Steps since m metrics taken after measured)
    (hm : m.stopping = true) (prompt : Prompt since taken) :
    ∀ t ∈ taken, t.step = .tick →
      (∃ due, t.before.loop = .idle due ∧ due ≤ t.time) ∧ t.time ∈ since :: finishes taken := by
  induction steps with
  | refl =>
    intro t ht
    cases ht
  | @step taken before after measured reports now step steps htime h ih =>
    obtain ⟨hawaits, prompt⟩ := prompt
    intro t ht htick
    rw [finishes_cons, ← List.cons_append]
    rcases List.mem_cons.mp ht with rfl | ht
    · have move := move_of_step h
      obtain rfl : step = .tick := htick
      cases move with
      | ticked due hl hdue =>
      have hpaused : before.loop.isPaused = true := by rw [hl]; rfl
      have hnow : now = timeOf since taken :=
        Nat.le_antisymm (hawaits.paused (steps.stopping hm) hpaused) htime
      refine ⟨⟨due, hl, hdue⟩, List.mem_append_left _ ?_⟩
      show now ∈ _
      rw [hnow]
      exact steps.paused_at hm prompt hpaused
    · obtain ⟨hdue, htime⟩ := ih prompt t ht htick
      exact ⟨hdue, List.mem_append_left _ htime⟩

/-- A loop that has ended stays so: it starts nothing and has nothing that could finish. -/
lemma Steps.ended (steps : Steps since m metrics taken after measured) (hm : m.loop = .ended) :
    after.loop = .ended ∧ starts taken = [] ∧ finishes taken = [] := by
  induction steps with
  | refl => exact ⟨hm, rfl, rfl⟩
  | @step taken before after measured reports now step steps htime h ih =>
    obtain ⟨hended, hstarts, hfinishes⟩ := ih
    have move := loopMove_of_move (move_of_step h)
    rw [starts_cons, finishes_cons, hstarts, hfinishes]
    generalize after.loop = loop at move ⊢
    cases move with
    | same hstart hfinish => exact ⟨hended, by rw [hstart]; rfl, by rw [hfinish]; rfl⟩
    | loading job job' hl hstart hfinish => simp [hended] at hl
    | refreshing due job job' hl hstart hfinish => simp [hended] at hl
    | loaded job hl hstart hfinish => simp [hended] at hl
    | finished due job hl hstart hfinish => simp [hended] at hl
    | began hl hstart hfinish => simp [hended] at hl
    | ticked due hl hdue hstart hfinish => simp [hended] at hl
    | left due hl hstopping hstart hfinish => simp [hended] at hl

/-- A stop after a stop changes nothing. -/
lemma step_stop (hm : m.stopping = true) (now : Nat) : m.step now .stop = some (m, []) := by
  rw [step, ← hm]

/-- Once the loop has ended and no refresh is under way, nothing can happen but further stops, which
change nothing, unless a refresh is asked for. -/
lemma Steps.quiet (steps : Steps since m metrics taken after measured) (hended : m.loop = .ended)
    (hstopping : m.stopping = true) (hrequested : m.requested = [])
    (hnone : ∀ t ∈ taken, t.step ≠ .request) :
    after = m ∧ measured = metrics ∧ ∀ t ∈ taken, t.step = .stop := by
  induction steps with
  | refl => exact ⟨rfl, rfl, fun t ht => absurd ht List.not_mem_nil⟩
  | @step taken before after measured reports now step steps htime h ih =>
    obtain ⟨rfl, rfl, hstops⟩ := ih fun t ht => hnone t (List.mem_cons_of_mem _ ht)
    have hidle : ∀ w, before.job? w = none := by
      intro w
      cases w with
      | loop => simp only [job?, hended]
      | requested index => simp only [job?, hrequested, List.getElem?_nil]
    have hstop : step = .stop := by
      have move := move_of_step h
      cases move with
      | stopped => rfl
      | requested hl => exact absurd rfl (hnone _ List.mem_cons_self)
      | responded w job rows identity hjob hasking => simp [hidle w] at hjob
      | gaveUp w job e identity hjob hasking hlast => simp [hidle w] at hjob
      | again w job e identity hjob hasking hmore => simp [hidle w] at hjob
      | woke w job time hjob hwaiting hover => simp [hidle w] at hjob
      | began hl => simp [hended] at hl
      | ticked due hl hdue => simp [hended] at hl
      | left due hl hstopping => simp [hended] at hl
    subst hstop
    rw [step_stop hstopping] at h
    obtain ⟨rfl, rfl⟩ : before = after ∧ [] = reports := by simpa using h
    refine ⟨rfl, rfl, ?_⟩
    intro t ht
    rcases List.mem_cons.mp ht with rfl | ht
    · rfl
    · exact hstops t ht

end Steps

/-! ### Winding down -/

/-- What these steps after a stop have come to. -/
structure WindsDown (since : Nat) (m : Refresher) (taken : List Taken) (after : Refresher) :
    Prop where
  /-- Another refresh was started only for a tick that was overdue, at the time of the stop or when
  a refresh had just finished. -/
  overdue : ∀ t ∈ taken, t.step = .tick →
    (∃ due, t.before.loop = .idle due ∧ due ≤ t.time) ∧ t.time ∈ since :: finishes taken
  /-- If no tick was overdue when the loop looked for the stop, none was started, and at most the
  refresh in flight has finished. -/
  last : (∀ t ∈ taken, ∀ due, t.before.loop = .idle due → t.time < due) →
    starts taken = [] ∧ (finishes taken).length + after.loop.inFlight = m.loop.inFlight
  /-- As soon as time passes and no refresh of the loop is in flight, the loop has ended. -/
  ends : ∀ now, timeOf since taken < now → after.Awaits (timeOf since taken) now →
    after.loop.inFlight = 0 →
    after.isRefreshing = false
  /-- What is read comes from the last snapshot. -/
  snapshot : after.snapshot =
    (taken.findSome? Taken.response?).elim m.snapshot (snapshotOf m.settings)
  /-- Stopping once more changes nothing. -/
  again : ∀ now, after.step now .stop = some (after, [])

/-- Nothing more comes from the loop, and without a refresh that is asked for nothing
changes at all. -/
structure Finished (m : Refresher) (metrics : Metrics) (taken : List Taken) (after : Refresher)
    (measured : Metrics) : Prop where
  ended : after.isRefreshing = false
  starts : starts taken = []
  finishes : finishes taken = []
  quiet : m.requested = [] → (∀ t ∈ taken, t.step ≠ .request) →
    after = m ∧ measured = metrics ∧ ∀ t ∈ taken, t.step = .stop

lemma loop_of_isRefreshing {m : Refresher} (h : m.isRefreshing = false) : m.loop = .ended := by
  simpa [isRefreshing] using h

/-- Whenever a refresher is told to stop: its loop starts another refresh only for a tick that came
due while one was under way, at the moment at which that one finishes. If there is none, the loop
ends with its refresh in flight, and nothing happens after that unless a refresh is asked for. -/
theorem windsDown_of_stop {since : Nat} {m after : Refresher} {metrics measured : Metrics}
    {taken : List Taken}
    (steps : Steps since { m with stopping := true } metrics taken after measured)
    (prompt : Prompt since taken) :
    WindsDown since m taken after ∧
    (after.isRefreshing = false → ∀ further rest done,
      Steps (timeOf since taken) after measured further rest done →
      Finished after measured further rest done) := by
  have hstopping : after.stopping = true := steps.stopping rfl
  have hoverdue := steps.tick_overdue rfl prompt
  refine ⟨⟨hoverdue, ?_, ?_, steps.snapshot, step_stop hstopping⟩, ?_⟩
  · intro hcalm
    have hstarts : starts taken = [] := by
      rw [List.eq_nil_iff_forall_not_mem]
      intro time htime
      obtain ⟨t, ht, htick, -⟩ := mem_starts.mp htime
      obtain ⟨⟨due, hl, hdue⟩, -⟩ := hoverdue t ht htick
      exact absurd (hcalm t ht due hl) (Nat.not_lt.mpr hdue)
    have hcount := steps.inFlight
    rw [hstarts] at hcount
    exact ⟨hstarts, hcount⟩
  · intro now hpassed hawaits hnone
    have hpaused : after.loop.isPaused ≠ true :=
      fun h => absurd (hawaits.paused hstopping h) (Nat.not_le.mpr hpassed)
    cases hl : after.loop with
    | ended => simp [isRefreshing, hl]
    | starting => simp [hl, Loop.isPaused] at hpaused
    | idle due => simp [hl, Loop.isPaused] at hpaused
    | loading job => simp [hl, Loop.inFlight] at hnone
    | refreshing due job => simp [hl, Loop.inFlight] at hnone
  · intro hended further rest done more
    have hloop := loop_of_isRefreshing hended
    obtain ⟨hrest, hstarts, hfinishes⟩ := more.ended hloop
    exact ⟨by simp [isRefreshing, hrest], hstarts, hfinishes, more.quiet hloop hstopping⟩

/-- A refresh waits when the stop comes, and no tick comes due before it has finished:
it is the last one. -/
theorem windsDown_of_stop_waiting :
    let settings : RefreshSettings :=
      { ownId := "one", interval := 10000, attempts := 2, delay := 1000 }
    let m : Refresher :=
      { settings,
        loop := .refreshing 20000 { startedAt := 10000, attempt := 2, phase := .waiting 11000 } }
    ∃ taken after measured, Steps 10500 { m with stopping := true } {} taken after measured ∧
      WindsDown 10500 m taken after ∧
      starts taken = [] ∧ finishes taken = [11000] ∧ after.isRefreshing = false ∧
      ∀ further rest done, Steps 11000 after measured further rest done →
        Finished after measured further rest done := by
  intro settings m
  have woken : Steps 10500 { m with stopping := true } {} _
      { settings, loop := .refreshing 20000 { startedAt := 10000, attempt := 2 },
        stopping := true } _ :=
    .step 11000 (.wake .loop) .refl (by decide) rfl
  have answered :
      Steps 10500 { m with stopping := true } {} _
        { settings, loop := .idle 20000, stopping := true } _ :=
    .step 11000 (.answer .loop (.ok []) .empty) woken (by decide) rfl
  have left :
      Steps 10500 { m with stopping := true } {} _ { settings, loop := .ended, stopping := true }
        _ :=
    .step 11000 .leave answered (by decide) rfl
  obtain ⟨winds, finished⟩ := windsDown_of_stop left
    ⟨awaits_of_pending 0 (by decide), awaits_of_pending 0 (by decide),
      awaits_of_pending 0 (by decide), trivial⟩
  exact ⟨_, _, _, left, winds, rfl, rfl, rfl, finished rfl⟩

/-- A refresh waits when the stop comes, and two ticks come due before it has finished: the loop
may start one of them. -/
theorem starts_after_stop :
    let settings : RefreshSettings :=
      { ownId := "one", interval := 1000, attempts := 2, delay := 5000 }
    let m : Refresher :=
      { settings,
        loop := .refreshing 2000 { startedAt := 1000, attempt := 2, phase := .waiting 6000 } }
    (∃ before metrics, Run settings 0 before m metrics ∧ Prompt 0 before ∧
       m.Awaits (timeOf 0 before) 2000) ∧
    ∀ metrics, ∃ later after measured,
      Steps 2000 { m with stopping := true } metrics later after measured ∧
      Prompt 2000 later ∧ starts later = [6000] := by
  intro settings m
  constructor
  · have loaded : Run settings 0 _ { settings, loop := .starting } _ :=
      .step 0 (.answer .loop (.ok []) .empty) .start (by decide) rfl
    have begun : Run settings 0 _ { settings, loop := .idle 1000 } _ :=
      .step 0 .begin loaded (by decide) rfl
    have ticked : Run settings 0 _ { settings, loop := .refreshing 2000 { startedAt := 1000 } } _ :=
      .step 1000 .tick begun (by decide) rfl
    have waiting : Run settings 0 _ m _ :=
      .step 1000 (.answer .loop (.error .transport) .empty) ticked (by decide) rfl
    refine ⟨_, _, waiting, ?_, awaits_of_pending 0 (by decide)⟩
    exact ⟨awaits_of_pending 0 (by decide), awaits_of_pending 0 (by decide),
      awaits_of_pending 0 (by decide), awaits_of_pending 0 (by decide), trivial⟩
  · intro metrics
    have woken : Steps 2000 { m with stopping := true } metrics _
        { settings, loop := .refreshing 2000 { startedAt := 1000, attempt := 2 },
          stopping := true } _ :=
      .step 6000 (.wake .loop) .refl (by decide) rfl
    have answered :
        Steps 2000 { m with stopping := true } metrics _
          { settings, loop := .idle 2000, stopping := true } _ :=
      .step 6000 (.answer .loop (.ok []) .empty) woken (by decide) rfl
    have tickedAgain : Steps 2000 { m with stopping := true } metrics _
        { settings, loop := .refreshing 3000 { startedAt := 6000 }, stopping := true } _ :=
      .step 6000 .tick answered (by decide) rfl
    refine ⟨_, _, _, tickedAgain, ?_, rfl⟩
    exact ⟨awaits_of_pending 0 (by decide), awaits_of_pending 0 (by decide),
      awaits_of_pending 0 (by decide), trivial⟩

end Refresher

end ClusterCost
