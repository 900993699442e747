import ClusterCost.Proofs.Cluster.Pending
import ClusterCost.Service.Clusters
import Mathlib.Data.List.Basic

/-!
# The passage of time

As time passes, what is pending happens one thing after another, each at its time. The bound of the
steps is enough for all that is due (`passes_run`), so nothing is left over at the horizon, and it
does not matter in how many parts time passes (`advance_add`).
-/

namespace ClusterCost

/-! ### Pending while nothing is due -/

namespace Refresher

variable {m : Refresher} {now overtime : Nat}

lemma pendingOf_later {w : Worker} {job : Job} (h : now < (pendingOf now w job).1) (later : Nat) :
    pendingOf later w job = pendingOf now w job := by
  rw [pendingOf, pendingOf]
  cases hphase : job.phase with
  | waiting time => rfl
  | asking =>
    rw [pendingOf, hphase] at h
    exact absurd h (Nat.lt_irrefl now)

/-- If nothing is due now, the same is pending later. -/
lemma pending_later (h : ∀ p ∈ m.pendingAwaited now ++ m.pendingLoop now overtime, now < p.1)
    (later : Nat) :
    m.pendingAwaited later = m.pendingAwaited now ∧
    m.pendingLoop later overtime = m.pendingLoop now overtime := by
  have hawaited : ∀ p ∈ m.pendingAwaited now, now < p.1 :=
    fun p hp => h p (List.mem_append_left _ hp)
  have hloop : ∀ p ∈ m.pendingLoop now overtime, now < p.1 :=
    fun p hp => h p (List.mem_append_right _ hp)
  constructor
  · rw [pendingAwaited, pendingAwaited]
    congr 1
    · apply List.ext_getElem?
      intro index
      rw [List.getElem?_mapIdx, List.getElem?_mapIdx]
      cases hjob : m.requested[index]? with
      | none => rfl
      | some job =>
        exact congrArg some (pendingOf_later (hawaited _ (mem_pendingAwaited hjob now)) later)
    · cases hl : m.loop with
      | loading job =>
        have hnow : now < (pendingOf now .loop job).1 := hawaited _ (by simp [pendingAwaited, hl])
        show [_] = [_]
        rw [pendingOf_later hnow]
      | _ => rfl
  · rw [pendingLoop, pendingLoop]
    rw [pendingLoop] at hloop
    cases hl : m.loop with
    | refreshing due job =>
      rw [hl] at hloop
      have hnow : now < (pendingOf now .loop job).1 := hloop _ List.mem_cons_self
      show [_] = [_]
      rw [pendingOf_later hnow]
    | starting =>
      rw [hl] at hloop
      exact absurd (hloop _ List.mem_cons_self) (Nat.lt_irrefl now)
    | idle due =>
      rw [hl] at hloop
      by_cases hstopping : m.stopping = true
      · simp only [hstopping, Bool.not_true, Bool.false_eq_true, if_false] at hloop
        split_ifs at hloop <;> exact absurd (hloop _ List.mem_cons_self) (Nat.lt_irrefl now)
      · simp [hstopping]
    | _ => rfl

end Refresher

namespace Service

/-! ### What notes and steps leave as it was -/

section Frame

variable (s : Service) (m : ClusterMap) (report : Report) (ref : MapRef)

@[simp] lemma map_note : (s.note m report).map = s.map := by
  rw [note, measure]
  split_ifs <;> rfl

@[simp] lemma retired_note : (s.note m report).retired = s.retired := by
  rw [note, measure]
  split_ifs <;> rfl

@[simp] lemma now_note : (s.note m report).now = s.now := by
  rw [note, measure]
  split_ifs <;> rfl

end Frame

/-- The service after a map has taken a step: the map is another, and what the reports
say has been noted. -/
lemma stepMap_eq {s : Service} (ref : MapRef) {m : ClusterMap} {refresher : Refresher}
    {step : Refresher.Step} {reports : List Report}
    (hm : s.map? ref = some m) (h : m.refresher.step s.now step = some (refresher, reports)) :
    s.stepMap ref step =
      reports.foldl (fun s report => s.note { m with refresher } report)
        (s.setMap ref { m with refresher }) := by
  rw [stepMap, hm]
  simp only [h]

/-- A step that the map cannot take changes nothing. -/
lemma stepMap_eq_self {s : Service} (ref : MapRef) {m : ClusterMap} {step : Refresher.Step}
    (hm : s.map? ref = some m) (h : m.refresher.step s.now step = none) :
    s.stepMap ref step = s := by
  rw [stepMap, hm]
  simp only [h]

/-- What no note touches is so after any notes. -/
lemma foldl_note {α : Type} {f : Service → α} (hf : ∀ s m report, f (note s m report) = f s)
    (s : Service) (m : ClusterMap) (reports : List Report) :
    f (reports.foldl (fun s report => s.note m report) s) = f s := by
  induction reports generalizing s with
  | nil => rfl
  | cons report rest ih => rw [List.foldl_cons, ih, hf]

@[simp] lemma now_setMap (s : Service) (ref : MapRef) (m : ClusterMap) :
    (s.setMap ref m).now = s.now := by
  cases ref <;> rfl

@[simp] lemma now_stepMap (s : Service) (ref : MapRef) (step : Refresher.Step) :
    (s.stepMap ref step).now = s.now := by
  rw [stepMap]
  split
  · rfl
  · split
    · rfl
    · rw [foldl_note now_note, now_setMap]

/-! ### What a thing that is pending does -/

/-- The refresher of the current map. -/
def refresher? (s : Service) : Option Refresher := s.map.map (·.refresher)

lemma refresher?_eq_some {s : Service} {refresher : Refresher} (h : s.refresher? = some refresher) :
    ∃ m, s.map = some m ∧ m.refresher = refresher := by
  simpa [refresher?] using h

/-- The time and all refreshers are the same. -/
structure SameRefreshers (s after : Service) : Prop where
  now : after.now = s.now
  current : after.refresher? = s.refresher?
  retired : after.retired.map (·.refresher) = s.retired.map (·.refresher)

section SameRefreshers

variable {s after : Service} {ref : MapRef} {m m' : ClusterMap}

lemma SameRefreshers.refl (s : Service) : SameRefreshers s s := ⟨rfl, rfl, rfl⟩

lemma SameRefreshers.map? (same : SameRefreshers s after) (hm : s.map? ref = some m) :
    ∃ m', after.map? ref = some m' ∧ m'.refresher = m.refresher := by
  cases ref with
  | current =>
    have hcurrent : s.refresher? = some m.refresher := by
      rw [refresher?, show s.map = some m from hm, Option.map_some]
    exact refresher?_eq_some (same.current.trans hcurrent)
  | retired index =>
    have hretired : (after.retired.map (·.refresher))[index]? = some m.refresher := by
      rw [same.retired, List.getElem?_map, show s.retired[index]? = some m from hm, Option.map_some]
    rw [List.getElem?_map, Option.map_eq_some_iff] at hretired
    exact hretired

lemma sameRefreshers_setMap (hm : s.map? ref = some m) (h : m'.refresher = m.refresher) :
    SameRefreshers s (s.setMap ref m') := by
  cases ref with
  | current =>
    have hmap : s.map = some m := hm
    exact ⟨rfl, by simp [setMap, refresher?, hmap, h], rfl⟩
  | retired index =>
    refine ⟨rfl, rfl, ?_⟩
    apply List.ext_getElem?
    intro other
    have hget : s.retired[index]? = some m := hm
    rw [setMap, List.getElem?_map, List.getElem?_map, List.getElem?_set]
    split_ifs with heq hindex
    · rw [← heq, hget, Option.map_some, Option.map_some, h]
    · rw [← heq, List.getElem?_eq_none (Nat.le_of_not_lt hindex)]
    · rfl

lemma sameRefreshers_useOvertime (s : Service) (ref : MapRef) :
    SameRefreshers s (s.useOvertime ref) := by
  rw [useOvertime]
  cases hm : s.map? ref with
  | none => exact .refl s
  | some m =>
    simp only
    split_ifs
    · exact sameRefreshers_setMap hm rfl
    · exact .refl s

/-- What is pending is a step of its map; before that the supply is asked, or a refresh
after a stop is counted. -/
lemma perform_eq (hm : s.map? ref = some m) (p : Refresher.Pending) :
    ∃ before step, SameRefreshers s before ∧ p.Is step ∧
      s.perform ref p = before.stepMap ref step := by
  cases p with
  | asks w =>
    refine ⟨{ s with supply := (s.supply.ask m.query).2 },
      .answer w (s.supply.ask m.query).1 (s.identityOf m), ⟨rfl, rfl, rfl⟩, .asks w _ _, ?_⟩
    simp only [perform, hm]
  | wakes w => exact ⟨s, _, .refl s, .wakes w, rfl⟩
  | begins => exact ⟨s, _, .refl s, .begins, rfl⟩
  | ticks => exact ⟨s.useOvertime ref, _, sameRefreshers_useOvertime s ref, .ticks, rfl⟩
  | leaves => exact ⟨s, _, .refl s, .leaves, rfl⟩

end SameRefreshers

/-! ### The bound of the steps -/

section Bounds

variable {s : Service} {ref : MapRef} {m m' : ClusterMap} {horizon time : Nat}
  {p : Refresher.Pending}

lemma stepBound_setMap (hm : s.map? ref = some m) (m' : ClusterMap) (horizon : Nat) :
    (s.setMap ref m').stepBound horizon + m.refresher.stepBound s.now horizon =
      s.stepBound horizon + m'.refresher.stepBound s.now horizon := by
  cases ref with
  | current =>
    have hmap : s.map = some m := hm
    simp only [setMap, stepBound, hmap, Option.elim_some]
    omega
  | retired index =>
    have htotal := foldr_add_set (fun m : ClusterMap => m.refresher.stepBound s.now horizon) hm m'
    simp only [setMap, stepBound]
    omega

lemma stepBound_notes (s : Service) (m : ClusterMap) (reports : List Report) (horizon : Nat) :
    (reports.foldl (fun s report => s.note m report) s).stepBound horizon =
      s.stepBound horizon := by
  refine foldl_note (f := fun s => s.stepBound horizon) ?_ s m reports
  intro s m report
  simp [stepBound]

lemma stepBound_atTime (s : Service) (time horizon : Nat) :
    (s.atTime time).stepBound horizon ≤ s.stepBound horizon := by
  have hlater : s.now ≤ (s.atTime time).now := Nat.le_max_left s.now time
  rw [stepBound, stepBound]
  refine Nat.add_le_add (foldr_add_le (fun m => Refresher.stepBound_anti hlater) s.retired) ?_
  show s.map.elim 0 _ ≤ _
  cases s.map with
  | none => exact Nat.le_refl _
  | some m => exact Refresher.stepBound_anti hlater

/-- A map's step that was pending lowers the bound. -/
lemma stepBound_stepMap {step : Refresher.Step} {earlier : Nat} (hm : s.map? ref = some m)
    (pends : m.refresher.Pends earlier time p) (htime : time ≤ s.now) (hhorizon : time ≤ horizon)
    (his : p.Is step) :
    (s.stepMap ref step).stepBound horizon < s.stepBound horizon := by
  obtain ⟨refresher, reports, h, hless⟩ := Refresher.happens_of_pends pends htime hhorizon his
  have htotal := stepBound_setMap hm { m with refresher } horizon
  have hless' : refresher.stepBound s.now horizon < m.refresher.stepBound s.now horizon := hless
  rw [stepMap_eq ref hm h, stepBound_notes]
  show ClusterCost.Service.stepBound _ _ < _
  simp only at htotal
  omega

lemma SameRefreshers.stepBound {after : Service} (same : SameRefreshers s after) (horizon : Nat) :
    after.stepBound horizon = s.stepBound horizon := by
  have htotal : ∀ s : Service, s.stepBound horizon =
      (s.retired.map (·.refresher)).foldr (fun r total => r.stepBound s.now horizon + total) 0 +
        s.refresher?.elim 0 (·.stepBound s.now horizon) := by
    intro s
    rw [Service.stepBound, List.foldr_map, refresher?, Option.elim_map]
    rfl
  rw [htotal, htotal, same.now, same.current, same.retired]

end Bounds

/-! ### What is due first -/

section First

variable {s s' : Service} {horizon : Nat}

lemma mem_pending {time : Nat} {ref : MapRef} {p : Refresher.Pending} : (time, ref, p) ∈ s.pending ↔
    ref ∈ s.refs ∧ ∃ m, s.map? ref = some m ∧
      (time, p) ∈ m.refresher.pendingAwaited s.now ++ m.refresher.pendingLoop s.now m.overtime := by
  simp only [pending, List.mem_append, List.mem_flatMap, List.mem_map, Prod.mk.injEq]
  constructor
  · rintro (⟨ref, href, ⟨time, p⟩, hp, rfl, rfl, rfl⟩ | ⟨ref, href, ⟨time, p⟩, hp, rfl, rfl, rfl⟩)
    · cases hm : s.map? ref with
      | none => simp [hm] at hp
      | some m => exact ⟨href, m, rfl, .inl (by simpa [hm] using hp)⟩
    · cases hm : s.map? ref with
      | none => simp [hm] at hp
      | some m => exact ⟨href, m, rfl, .inr (by simpa [hm] using hp)⟩
  · rintro ⟨href, m, hm, hp | hp⟩
    · exact .inl ⟨ref, href, (time, p), by simpa [hm] using hp, rfl, rfl, rfl⟩
    · exact .inr ⟨ref, href, (time, p), by simpa [hm] using hp, rfl, rfl, rfl⟩

lemma earlier_eq_some {α : Type} {best : Option (Nat × α)} {next c : Nat × α}
    (h : earlier best next = some c) :
    (best = some c ∨ next = c) ∧ (∀ b, best = some b → c.1 ≤ b.1) ∧ c.1 ≤ next.1 := by
  cases best with
  | none =>
    obtain rfl : next = c := by simpa [earlier] using h
    exact ⟨.inr rfl, nofun, Nat.le_refl _⟩
  | some best =>
    rw [earlier] at h
    split_ifs at h with hearlier
    · obtain rfl := Option.some.inj h
      refine ⟨.inr rfl, ?_, Nat.le_refl _⟩
      rintro b hb
      obtain rfl := Option.some.inj hb
      exact Nat.le_of_lt hearlier
    · obtain rfl := Option.some.inj h
      refine ⟨.inl rfl, ?_, Nat.le_of_not_lt hearlier⟩
      rintro b hb
      exact Nat.le_of_eq (congrArg Prod.fst (Option.some.inj hb))

lemma earlier_isSome {α : Type} (best : Option (Nat × α)) (next : Nat × α) :
    ∃ c, earlier best next = some c := by
  cases best with
  | none => exact ⟨next, rfl⟩
  | some best =>
    rw [earlier]
    split_ifs
    · exact ⟨next, rfl⟩
    · exact ⟨best, rfl⟩

/-- The earliest of several is one of them, and none of them is earlier. -/
lemma foldl_earlier {α : Type} (l : List (Nat × α)) {best : Option (Nat × α)} {c : Nat × α}
    (h : l.foldl earlier best = some c) :
    (best = some c ∨ c ∈ l) ∧ (∀ b, best = some b → c.1 ≤ b.1) ∧ ∀ a ∈ l, c.1 ≤ a.1 := by
  induction l generalizing best with
  | nil =>
    obtain rfl : best = some c := h
    refine ⟨.inl rfl, ?_, nofun⟩
    rintro b hb
    exact Nat.le_of_eq (congrArg Prod.fst (Option.some.inj hb))
  | cons next rest ih =>
    obtain ⟨b, hb⟩ := earlier_isSome best next
    obtain ⟨hfrom, hbest, hnext⟩ := earlier_eq_some hb
    rw [List.foldl_cons, hb] at h
    obtain ⟨hmem, hle, hrest⟩ := ih h
    have hcb := hle b rfl
    refine ⟨?_, fun b' hb' => Nat.le_trans hcb (hbest b' hb'), ?_⟩
    · rcases hmem with hcb | hmem
      · obtain rfl := Option.some.inj hcb
        rcases hfrom with hfrom | rfl
        · exact .inl hfrom
        · exact .inr List.mem_cons_self
      · exact .inr (List.mem_cons_of_mem _ hmem)
    · intro a ha
      rcases List.mem_cons.mp ha with rfl | ha
      · exact Nat.le_trans hcb hnext
      · exact hrest a ha

lemma foldl_earlier_isSome {α : Type} (l : List (Nat × α)) (best : Nat × α) :
    ∃ c, l.foldl earlier (some best) = some c := by
  induction l generalizing best with
  | nil => exact ⟨best, rfl⟩
  | cons next rest ih =>
    obtain ⟨b, hb⟩ := earlier_isSome (some best) next
    rw [List.foldl_cons, hb]
    exact ih b

lemma first?_eq_none (h : s.first? = none) : s.pending = [] := by
  rw [first?] at h
  cases hp : s.pending with
  | nil => rfl
  | cons next rest =>
    obtain ⟨c, hc⟩ := foldl_earlier_isSome rest next
    rw [hp, List.foldl_cons, earlier, hc] at h
    cases h

lemma first?_eq_some {first : Nat × MapRef × Refresher.Pending} (h : s.first? = some first) :
    first ∈ s.pending ∧ ∀ p ∈ s.pending, first.1 ≤ p.1 := by
  obtain ⟨hmem, -, hearliest⟩ := foldl_earlier s.pending h
  exact ⟨hmem.resolve_left nofun, hearliest⟩

lemma stepBy?_eq_some (h : s.stepBy? horizon = some s') :
    ∃ time ref p, s.first? = some (time, ref, p) ∧ time ≤ horizon ∧
      s' = (s.atTime time).perform ref p := by
  rw [stepBy?] at h
  cases hfirst : s.first? with
  | none => simp [hfirst] at h
  | some first =>
    obtain ⟨time, ref, p⟩ := first
    simp only [hfirst, Option.ite_none_right_eq_some, Option.some.injEq] at h
    exact ⟨time, ref, p, rfl, h.1, h.2.symm⟩

/-- Nothing happens by a horizon if and only if nothing that is pending is due by then. -/
lemma stepBy?_eq_none : s.stepBy? horizon = none ↔ ∀ p ∈ s.pending, horizon < p.1 := by
  rw [stepBy?]
  cases hfirst : s.first? with
  | none => simp [first?_eq_none hfirst]
  | some first =>
    obtain ⟨hmem, hearliest⟩ := first?_eq_some hfirst
    obtain ⟨time, ref, p⟩ := first
    simp only [ite_eq_right_iff, reduceCtorEq, imp_false, Nat.not_le]
    exact ⟨fun h q hq => Nat.lt_of_lt_of_le h (hearliest q hq), fun h => h _ hmem⟩

/-- What happens first does not depend on how far it may go. -/
lemma stepBy?_mono {later : Nat} (hlater : horizon ≤ later) (h : s.stepBy? horizon = some s') :
    s.stepBy? later = some s' := by
  obtain ⟨time, ref, p, hfirst, htime, rfl⟩ := stepBy?_eq_some h
  simp only [stepBy?, hfirst, if_pos (Nat.le_trans htime hlater)]

/-- What happens first is a step of a map that was pending, and it happens when its time comes. -/
lemma happens_of_stepBy? (h : s.stepBy? horizon = some s') : ∃ time ref m p before step,
    time ≤ horizon ∧ (∀ q ∈ s.pending, time ≤ q.1) ∧ s.map? ref = some m ∧
    m.refresher.Pends s.now time p ∧
    SameRefreshers (s.atTime time) before ∧ p.Is step ∧ s' = before.stepMap ref step := by
  obtain ⟨time, ref, p, hfirst, htime, rfl⟩ := stepBy?_eq_some h
  obtain ⟨hmem, hearliest⟩ := first?_eq_some hfirst
  obtain ⟨-, m, hm, hp⟩ := mem_pending.mp hmem
  have hm' : (s.atTime time).map? ref = some m := by
    cases ref <;> exact hm
  obtain ⟨before, step, same, his, heq⟩ := perform_eq hm' p
  exact ⟨time, ref, m, p, before, step, htime, hearliest, hm, Refresher.pends_of_mem hp, same, his,
    heq⟩

lemma now_stepBy? (h : s.stepBy? horizon = some s') (hnow : s.now ≤ horizon) :
    s'.now ≤ horizon := by
  obtain ⟨time, ref, m, p, before, step, htime, -, -, -, same, -, rfl⟩ := happens_of_stepBy? h
  rw [now_stepMap, same.now]
  exact Nat.max_le.mpr ⟨hnow, htime⟩

/-- Each step lowers the bound. -/
lemma stepBound_stepBy? (h : s.stepBy? horizon = some s') :
    s'.stepBound horizon < s.stepBound horizon := by
  obtain ⟨time, ref, m, p, before, step, htime, -, hm, pends, same, his, rfl⟩ :=
    happens_of_stepBy? h
  have hm' : (s.atTime time).map? ref = some m := by
    cases ref <;> exact hm
  obtain ⟨m', hbefore, hrefresher⟩ := same.map? hm'
  have hlater : time ≤ before.now := by
    rw [same.now]
    exact Nat.le_max_right s.now time
  rw [← hrefresher] at pends
  calc (before.stepMap ref step).stepBound horizon
      < before.stepBound horizon := stepBound_stepMap hbefore pends hlater htime his
    _ = (s.atTime time).stepBound horizon := same.stepBound horizon
    _ ≤ s.stepBound horizon := stepBound_atTime s time horizon

end First

/-! ### Until nothing is due -/

/-- Some of what is due by a horizon has happened, one thing after another. -/
inductive Passes (horizon : Nat) : Service → Service → Prop
  | refl (s : Service) : Passes horizon s s
  | step {s next after : Service} (h : s.stepBy? horizon = some next)
      (rest : Passes horizon next after) : Passes horizon s after

section Passes

variable {s after after' : Service} {horizon later : Nat}

lemma Passes.trans {between : Service} (h : Passes horizon s between)
    (h' : Passes horizon between after) : Passes horizon s after := by
  induction h with
  | refl s => exact h'
  | step hs rest ih => exact .step hs (ih h')

lemma Passes.mono (h : Passes horizon s after) (hlater : horizon ≤ later) :
    Passes later s after := by
  induction h with
  | refl s => exact .refl s
  | step hs rest ih => exact .step (stepBy?_mono hlater hs) ih

/-- What holds and is kept by each thing that happens holds in the end. -/
lemma Passes.keeps {P : Service → Prop} (h : Passes horizon s after)
    (hP : ∀ s next, P s → s.stepBy? horizon = some next → P next) (hs : P s) : P after := by
  induction h with
  | refl s => exact hs
  | step hstep rest ih => exact ih (hP _ _ hs hstep)

lemma Passes.now_le (h : Passes horizon s after) (hnow : s.now ≤ horizon) : after.now ≤ horizon :=
  h.keeps (P := fun s => s.now ≤ horizon) (fun _ _ hnow hstep => now_stepBy? hstep hnow) hnow

/-- All that is due comes to one state. -/
lemma Passes.unique (h : Passes horizon s after) (hdone : after.stepBy? horizon = none)
    (h' : Passes horizon s after') (hdone' : after'.stepBy? horizon = none) : after = after' := by
  induction h with
  | refl s =>
    cases h' with
    | refl => rfl
    | step hs rest =>
      rw [hdone] at hs
      cases hs
  | step hs rest ih =>
    cases h' with
    | refl =>
      rw [hdone'] at hs
      cases hs
    | step hs' rest' =>
      obtain rfl := Option.some.inj (hs.symm.trans hs')
      exact ih hdone rest'

lemma passes_runFrom (done : Service → Bool) (fuel : Nat) (s : Service) :
    Passes horizon s (s.runFrom horizon done fuel) := by
  induction fuel generalizing s with
  | zero => exact .refl s
  | succ fuel ih =>
    rw [runFrom]
    split_ifs
    · exact .refl s
    · cases hs : s.stepBy? horizon with
      | none => exact .refl s
      | some next => exact .step hs (ih next)

/-- With as many steps as the bound allows, what is due by the horizon happens, all of it or
until the condition holds. -/
lemma runFrom_done (done : Service → Bool) {fuel : Nat} {s : Service}
    (hfuel : s.stepBound horizon ≤ fuel) :
    done (s.runFrom horizon done fuel) = true ∨
    (s.runFrom horizon done fuel).stepBy? horizon = none := by
  induction fuel generalizing s with
  | zero =>
    right
    rw [runFrom]
    cases hs : s.stepBy? horizon with
    | none => rfl
    | some next =>
      exact absurd (Nat.lt_of_lt_of_le (stepBound_stepBy? hs) hfuel) (Nat.not_lt_zero _)
  | succ fuel ih =>
    rw [runFrom]
    split_ifs with hdone
    · exact .inl hdone
    · cases hs : s.stepBy? horizon with
      | none => exact .inr hs
      | some next => exact ih (Nat.le_of_lt_succ (Nat.lt_of_lt_of_le (stepBound_stepBy? hs) hfuel))

lemma passes_run (s : Service) (horizon : Nat) (done : Service → Bool) :
    Passes horizon s (s.run horizon done) ∧
    (done (s.run horizon done) = true ∨ (s.run horizon done).stepBy? horizon = none) :=
  ⟨passes_runFrom done _ s, runFrom_done done (Nat.le_refl _)⟩

/-- As time passes, all that is due happens. -/
lemma advance_eq (s : Service) (milliseconds : Nat) :
    ∃ after, Passes (s.now + milliseconds) s after ∧ after.stepBy? (s.now + milliseconds) = none ∧
      s.advance milliseconds = { after with now := s.now + milliseconds } := by
  obtain ⟨passes, hdone⟩ := passes_run s (s.now + milliseconds) fun _ => false
  exact ⟨_, passes, hdone.resolve_left nofun, rfl⟩

/-- While nothing is due, it does not matter whether the clock stands or goes on. -/
lemma stepBy?_wait (hdone : s.stepBy? horizon = none) (hnow : s.now ≤ horizon) (later : Nat) :
    ({ s with now := horizon } : Service).stepBy? later = s.stepBy? later := by
  have hnone := stepBy?_eq_none.mp hdone
  have hmaps : ∀ ref ∈ s.refs, ∀ m, s.map? ref = some m →
      m.refresher.pendingAwaited horizon = m.refresher.pendingAwaited s.now ∧
      m.refresher.pendingLoop horizon m.overtime = m.refresher.pendingLoop s.now m.overtime := by
    intro ref href m hm
    refine Refresher.pending_later ?_ horizon
    rintro ⟨time, p⟩ hp
    exact Nat.lt_of_le_of_lt hnow (hnone (time, ref, p) (mem_pending.mpr ⟨href, m, hm, hp⟩))
  have hpending : ({ s with now := horizon } : Service).pending = s.pending := by
    have hmap : ∀ ref, ({ s with now := horizon } : Service).map? ref = s.map? ref := by
      intro ref
      cases ref <;> rfl
    rw [pending, pending]
    congr 1
    · refine List.flatMap_congr fun ref href => ?_
      rw [hmap]
      cases hm : s.map? ref with
      | none => rfl
      | some m => simp only [Option.elim_some, (hmaps ref href m hm).1]
    · refine List.flatMap_congr fun ref href => ?_
      rw [hmap]
      cases hm : s.map? ref with
      | none => rfl
      | some m => simp only [Option.elim_some, (hmaps ref href m hm).2]
  have hfirst : ({ s with now := horizon } : Service).first? = s.first? := by
    rw [first?, first?, hpending]
  rw [stepBy?, stepBy?, hfirst]
  cases hs : s.first? with
  | none => rfl
  | some first =>
    have hlater := hnone first (first?_eq_some hs).1
    have hmax : max horizon first.1 = max s.now first.1 := by omega
    simp only [atTime, hmax]

/-- It does not matter in how many parts time passes. -/
lemma advance_add (s : Service) (first second : Nat) :
    s.advance (first + second) = (s.advance first).advance second := by
  obtain ⟨whole, hwhole, hdone, heq⟩ := advance_eq s (first + second)
  obtain ⟨between, hbetween, hbetweenDone, hbetweenEq⟩ := advance_eq s first
  obtain ⟨last, hlast, hlastDone, hlastEq⟩ := advance_eq (s.advance first) second
  have hnow : (s.advance first).now = s.now + first := rfl
  rw [hnow, Nat.add_assoc] at hlast hlastDone hlastEq
  have hsame : (s.advance first).stepBy? (s.now + (first + second)) =
      between.stepBy? (s.now + (first + second)) := by
    rw [hbetweenEq]
    exact stepBy?_wait hbetweenDone (hbetween.now_le (Nat.le_add_right _ _)) _
  have hmore := hbetween.mono (Nat.add_le_add_left (Nat.le_add_right first second) s.now)
  rw [heq, hlastEq]
  cases hlast with
  | refl =>
    rw [hlastDone] at hsame
    rw [hwhole.unique hdone hmore hsame.symm, hbetweenEq]
  | step hs rest =>
    rw [hsame] at hs
    rw [hwhole.unique hdone (hmore.trans (.step hs rest)) hlastDone]

end Passes

end Service

end ClusterCost
