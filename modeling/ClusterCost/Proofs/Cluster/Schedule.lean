import ClusterCost.Proofs.Cluster.Integrity
import ClusterCost.Proofs.Cluster.Timing

/-!
# When the loop refreshes

The ticks of the loop are due at the multiples of the interval after the first load. In a
prompt run each starts its refresh when it is due or, if the refresh before it is still under
way then, at the moment at which that one finishes. So no tick is lost and none counts twice,
however long the refreshes take (`schedule_of_timed`). What carries the proof is where the loop
stands after each step (`Position`): the next tick is due one interval after as many intervals
as refreshes have been started.
-/

namespace ClusterCost.Refresher

/-! ### Where the loop stands -/

/-- The next tick of a loop is due one interval after as many intervals as refreshes have been
started, counted from the first load. -/
structure Due (settings : RefreshSettings) (starts finishes : List Nat) (time due built : Nat) :
    Prop where
  first : finishes.head? = some built
  within : settings.isTooLong built = false
  due_eq : due = built + (starts.length + 1) * settings.interval
  reached : built + starts.length * settings.interval ≤ time

/-- Where a loop stands at a time, by the times at which its refreshes started and finished; the
first load is the first that finishes. -/
def Position (settings : RefreshSettings) (starts finishes : List Nat) (time : Nat) : Loop → Prop
  | .loading _ => starts = [] ∧ finishes = []
  | .starting => starts = [] ∧ finishes = [time]
  | .idle due =>
    ∃ built last, Due settings starts finishes time due built ∧ finishes.getLast? = some last ∧
      finishes.length = starts.length + 1 ∧ last ≤ time ∧ time ≤ max due last
  | .refreshing due _ =>
    ∃ built, Due settings starts finishes time due built ∧ finishes.length = starts.length
  | .ended => starts = [] ∧ ∃ built, finishes = [built] ∧ settings.isTooLong built = true

/-- Each refresh started when its tick was due, or when the one before it had finished
if that was later. -/
def OnTime (settings : RefreshSettings) (starts finishes : List Nat) : Prop :=
  ∀ k start, starts[k]? = some start →
    ∃ built last, finishes.head? = some built ∧ finishes[k]? = some last ∧
    start = max (built + (k + 1) * settings.interval) last

lemma onTime_nil (settings : RefreshSettings) (finishes : List Nat) :
    OnTime settings [] finishes := by
  intro k start h
  simp at h

/-- What has been started on time stays so when more refreshes finish. -/
lemma OnTime.append_finish {settings : RefreshSettings} {starts finishes : List Nat}
    (h : OnTime settings starts finishes) (more : List Nat) :
    OnTime settings starts (finishes ++ more) := by
  intro k start hk
  obtain ⟨built, last, hbuilt, hlast, hstart⟩ := h k start hk
  refine ⟨built, last, ?_, ?_, hstart⟩
  · cases finishes with
    | nil => simp at hbuilt
    | cons first rest => simpa using hbuilt
  · exact (List.getElem?_append_left (List.getElem?_eq_some_iff.mp hlast).1).trans hlast

lemma OnTime.append_start {settings : RefreshSettings} {starts finishes : List Nat}
    (h : OnTime settings starts finishes) {built last now : Nat}
    (hbuilt : finishes.head? = some built) (hlast : finishes[starts.length]? = some last)
    (hnow : now = max (built + (starts.length + 1) * settings.interval) last) :
    OnTime settings (starts ++ [now]) finishes := by
  intro k start hk
  by_cases hold : k < starts.length
  · rw [List.getElem?_append_left hold] at hk
    exact h k start hk
  · rw [List.getElem?_append_right (Nat.le_of_not_lt hold), List.getElem?_singleton] at hk
    split_ifs at hk with hzero
    obtain rfl : k = starts.length := by omega
    exact ⟨built, last, hbuilt, hlast, by rw [← hnow, ← Option.some.inj hk]⟩

section Steps

variable {settings : RefreshSettings} {starts finishes : List Nat} {m : Refresher} {time now : Nat}

lemma Due.wait {due built : Nat} (h : Due settings starts finishes time due built)
    (htime : time ≤ now) : Due settings starts finishes now due built :=
  { h with reached := Nat.le_trans h.reached htime }

/-- As time passes without a step of the loop, the loop stands where it stood. -/
lemma Position.wait (h : Position settings starts finishes time m.loop)
    (hawaits : m.Awaits time now) (htime : time ≤ now) :
    Position settings starts finishes now m.loop := by
  cases hl : m.loop with
  | loading job =>
    rw [hl] at h
    exact h
  | starting =>
    rw [hl] at h
    have hnow : now = time := Nat.le_antisymm (hawaits.begun hl) htime
    rw [hnow]
    exact h
  | idle due =>
    rw [hl] at h
    obtain ⟨built, last, hdue, hlast, hlength, hfinished, hsoon⟩ := h
    have hnow := hawaits.ticked due hl
    exact ⟨built, last, hdue.wait htime, hlast, hlength, by omega, by omega⟩
  | refreshing due job =>
    rw [hl] at h
    obtain ⟨built, hdue, hlength⟩ := h
    exact ⟨built, hdue.wait htime, hlength⟩
  | ended =>
    rw [hl] at h
    exact h

end Steps

/-- Where the loop stands after a step, if it has not been told to stop. -/
lemma position_loopMove {settings : RefreshSettings} {m : Refresher} {t : Taken}
    {taken : List Taken} {loop : Loop}
    (hsettings : m.settings = settings) (hstopping : m.stopping = false)
    (hposition : Position settings (starts taken) (finishes taken) t.time m.loop)
    (hontime : OnTime settings (starts taken) (finishes taken)) (move : LoopMove m t loop) :
    Position settings (starts (t :: taken)) (finishes (t :: taken)) t.time loop ∧
      OnTime settings (starts (t :: taken)) (finishes (t :: taken)) := by
  rw [starts_cons, finishes_cons]
  cases move with
  | same hstart hfinish =>
    simp only [hstart, hfinish, Option.toList_none, List.append_nil]
    exact ⟨hposition, hontime⟩
  | loading job job' h hstart hfinish =>
    simp only [hstart, hfinish, Option.toList_none, List.append_nil]
    rw [h] at hposition
    exact ⟨hposition, hontime⟩
  | refreshing due job job' h hstart hfinish =>
    simp only [hstart, hfinish, Option.toList_none, List.append_nil]
    rw [h] at hposition
    exact ⟨hposition, hontime⟩
  | loaded job h hstart hfinish =>
    rw [h] at hposition
    obtain ⟨hstarts, hfinishes⟩ := hposition
    simp only [hstart, hfinish, hstarts, hfinishes, Option.toList_none, Option.toList_some,
      List.append_nil, List.nil_append]
    exact ⟨⟨rfl, rfl⟩, onTime_nil settings _⟩
  | finished due job h hstart hfinish =>
    rw [h] at hposition
    obtain ⟨built, hdue, hlength⟩ := hposition
    simp only [hstart, hfinish, Option.toList_none, Option.toList_some, List.append_nil]
    refine ⟨⟨built, t.time, { hdue with first := ?_ }, List.getLast?_concat, ?_, Nat.le_refl _,
      Nat.le_max_right _ _⟩, hontime.append_finish _⟩
    · rw [List.head?_append, hdue.first, Option.some_or]
    · rw [List.length_append, hlength, List.length_singleton]
  | began h hstart hfinish =>
    rw [h] at hposition
    obtain ⟨hstarts, hfinishes⟩ := hposition
    simp only [hstart, hfinish, hstarts, hfinishes, Option.toList_none, List.append_nil]
    refine ⟨?_, onTime_nil settings _⟩
    rw [startLoop, hsettings]
    split_ifs with hlong
    · exact ⟨rfl, t.time, rfl, hlong⟩
    · have hfirst : Due settings [] [t.time] t.time (t.time + settings.interval) t.time :=
        ⟨rfl, by simpa using hlong, by simp, by simp⟩
      exact ⟨t.time, t.time, hfirst, rfl, rfl, Nat.le_refl _, Nat.le_max_right _ _⟩
  | ticked due h hdue hstart hfinish =>
    rw [h] at hposition
    obtain ⟨built, last, hnext, hlast, hlength, hfinished, hsoon⟩ := hposition
    have hnow : t.time = max (built + ((starts taken).length + 1) * settings.interval) last := by
      rw [← hnext.due_eq]
      omega
    have hlast' : (finishes taken)[(starts taken).length]? = some last := by
      rw [List.getLast?_eq_getElem?, hlength] at hlast
      exact hlast
    have hmore :
        Due settings (starts taken ++ [t.time]) (finishes taken) t.time (due + m.settings.interval)
          built := by
      have hdue_eq := hnext.due_eq
      refine ⟨hnext.first, hnext.within, ?_, ?_⟩
      · rw [hsettings, List.length_append, List.length_singleton,
          Nat.add_mul ((starts taken).length + 1), Nat.one_mul]
        omega
      · rw [List.length_append, List.length_singleton]
        omega
    simp only [hstart, hfinish, Option.toList_none, Option.toList_some, List.append_nil]
    refine ⟨⟨built, hmore, ?_⟩, hontime.append_start hnext.first hlast' hnow⟩
    rw [List.length_append, hlength, List.length_singleton]
  | left due h hstopped hstart hfinish =>
    rw [hstopping] at hstopped
    cases hstopped

/-! ### Whole runs -/

section Runs

variable {settings : RefreshSettings} {since now time : Nat} {starts finishes : List Nat}
  {taken : List Taken}
variable {m : Refresher} {metrics : Metrics}

lemma position_of_run (run : Run settings since taken m metrics) (prompt : Prompt since taken)
    (hstop : ∀ t ∈ taken, t.step ≠ .stop) :
    m.stopping = false ∧
    Position settings (Refresher.starts taken) (Refresher.finishes taken) (timeOf since taken)
      m.loop ∧
      OnTime settings (Refresher.starts taken) (Refresher.finishes taken) := by
  induction run with
  | start => exact ⟨rfl, ⟨rfl, rfl⟩, onTime_nil settings _⟩
  | @step taken m after metrics reports now step run htime h ih =>
    obtain ⟨hawaits, prompt⟩ := prompt
    obtain ⟨hstopping, hposition, hontime⟩ :=
      ih prompt fun t ht => hstop t (List.mem_cons_of_mem _ ht)
    have move := move_of_step h
    have hstep : step ≠ .stop := hstop ⟨now, m, step⟩ List.mem_cons_self
    refine ⟨(move.stopping_eq hstep).trans hstopping, ?_⟩
    exact position_loopMove run.settings_eq hstopping (hposition.wait hawaits htime) hontime
      (loopMove_of_move move)

/-- One refresh after another: each but the last, and the first load, has finished
before the next starts. -/
lemma Position.paired {loop : Loop} (h : Position settings starts finishes time loop) :
    finishes.length = starts.length ∨ finishes.length = starts.length + 1 := by
  cases loop with
  | loading job =>
    obtain ⟨rfl, rfl⟩ := h
    exact .inl rfl
  | starting =>
    obtain ⟨rfl, rfl⟩ := h
    exact .inr rfl
  | idle due =>
    obtain ⟨built, last, hnext, hlast, hlength, -⟩ := h
    exact .inr hlength
  | refreshing due job =>
    obtain ⟨built, hnext, hlength⟩ := h
    exact .inl hlength
  | ended =>
    obtain ⟨rfl, built, rfl, -⟩ := h
    exact .inr rfl

/-- When the loop is idle and its tick is not due, as many refreshes have been started, and have
finished, as intervals have passed since the first load. -/
lemma Position.count {due built : Nat} (h : Position settings starts finishes now (.idle due))
    (hbuilt : finishes.head? = some built) (hdue : now < due) :
    starts.length = (now - built) / settings.interval ∧ finishes.length = starts.length + 1 := by
  obtain ⟨built', last, hnext, hlast, hlength, hfinished, hsoon⟩ := h
  obtain rfl : built = built' := Option.some.inj (hbuilt.symm.trans hnext.first)
  have hreached := hnext.reached
  have hdue_eq := hnext.due_eq
  rw [Nat.add_mul, Nat.one_mul] at hdue_eq
  refine ⟨?_, hlength⟩
  symm
  rw [Nat.div_eq_iff settings.interval_pos]
  omega

/-- If the first tick is too far ahead for the clock, the loop ends as soon as it
starts, without a refresh. -/
lemma Position.ended {built : Nat} {loop : Loop} (h : Position settings starts finishes time loop)
    (hbuilt : finishes.head? = some built) (hlong : settings.isTooLong built = true) :
    starts = [] ∧ (loop = .ended ∨ loop = .starting ∧ time = built) := by
  cases loop with
  | loading job =>
    obtain ⟨-, rfl⟩ := h
    cases hbuilt
  | starting =>
    obtain ⟨hstarts, rfl⟩ := h
    exact ⟨hstarts, .inr ⟨rfl, Option.some.inj hbuilt⟩⟩
  | idle due =>
    obtain ⟨built', last, hnext, -⟩ := h
    obtain rfl : built = built' := Option.some.inj (hbuilt.symm.trans hnext.first)
    rw [hnext.within] at hlong
    cases hlong
  | refreshing due job =>
    obtain ⟨built', hnext, -⟩ := h
    obtain rfl : built = built' := Option.some.inj (hbuilt.symm.trans hnext.first)
    rw [hnext.within] at hlong
    cases hlong
  | ended => exact ⟨h.1, .inl rfl⟩

/-- A refresh that is asked for takes the response that it gets, and the loop takes no notice. -/
def AnswersRequests (m : Refresher) : Prop :=
  ∀ now later rows identity, ∃ asked loaded reports, m.step now .request = some (asked, []) ∧
    asked.step later (.answer (.requested m.requested.length) (.ok rows) identity) =
      some (loaded, reports) ∧
    loaded.snapshot = snapshotOf m.settings (rows, identity) ∧ loaded.loop = m.loop

lemma answersRequests_of_loaded (h : m.isLoading = false) : m.AnswersRequests := by
  intro now later rows identity
  let asked : Refresher := { m with requested := m.requested ++ [{ startedAt := now }] }
  have hasked : m.step now .request = some (asked, []) := by
    rw [step]
    rw [isLoading] at h
    split
    · rename_i job hl
      simp [hl] at h
    · rfl
  have hjob : asked.job? (.requested m.requested.length) = some { startedAt := now } :=
    List.getElem?_concat_length
  have hanswer : asked.step later (.answer (.requested m.requested.length) (.ok rows) identity) =
      some
        (asked.answer later (.requested m.requested.length) { startedAt := now } (.ok rows)
           identity) := by
    rw [step, hjob]
    rfl
  exact ⟨asked, _, _, hasked, hanswer, rfl, rfl⟩

/-- How the refreshes of a loop that is not told to stop have gone by a time: the times at
which they started and finished. The first load is the first that finishes, at the time from
which the ticks are counted. -/
structure Schedule (settings : RefreshSettings) (starts finishes : List Nat) (m : Refresher)
    (now : Nat) : Prop where
  onTime : OnTime settings starts finishes
  paired : finishes.length = starts.length ∨ finishes.length = starts.length + 1
  /-- None is lost and none counts twice. -/
  count : ∀ built due, finishes.head? = some built → m.loop = .idle due → now < due →
    starts.length = (now - built) / settings.interval ∧ finishes.length = starts.length + 1
  /-- With an interval that is too long for the clock the loop ends at once. -/
  ended : ∀ built, finishes.head? = some built → settings.isTooLong built = true →
    starts = [] ∧ (m.isRefreshing = false ∨ m.loop = .starting ∧ now = built) ∧ m.AnswersRequests

lemma schedule_of_timed (timed : Timed settings since taken m metrics now) :
    Schedule settings (Refresher.starts taken) (Refresher.finishes taken) m now := by
  obtain ⟨-, hposition, hontime⟩ := position_of_run timed.run timed.prompt timed.unstopped
  have hnow := hposition.wait timed.awaits timed.reached
  refine ⟨hontime, hnow.paired, ?_, ?_⟩
  · intro built due hbuilt hl hdue
    rw [hl] at hnow
    exact hnow.count hbuilt hdue
  · intro built hbuilt hlong
    obtain ⟨hstarts, hl | ⟨hl, hat⟩⟩ := hnow.ended hbuilt hlong
    · exact ⟨hstarts, .inl (by simp [isRefreshing, hl]),
        answersRequests_of_loaded (by simp [isLoading, hl])⟩
    · exact ⟨hstarts, .inr ⟨hl, hat⟩, answersRequests_of_loaded (by simp [isLoading, hl])⟩

end Runs

end ClusterCost.Refresher
