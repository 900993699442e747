import ClusterCost.Proofs.Rates.Store
import ClusterCost.Rates.Concurrent

/-!
# Overlapping calls on a provider

Whatever calls overlap, and in whatever order they take their steps, the card is what the accepted
changes make of the first card one after another, and the table never mixes two cards or stays
behind (`consistent_run`). The commit of a change and the rebuild of the table are under different
locks, so a rebuild may have read a card that has been replaced since. The invariant says that then
the call that replaced it still waits for the lock of the table, and will rebuild the table again.
A call that takes all its steps alone comes to the plain update (`run_updateByBody`).
-/

namespace ClusterCost

/-! ### What a call has done -/

/-- The changes, the newest first, make of the first card the last one: each was accepted for the
card that the one before it left. -/
inductive History (first : RateCard) : List Commit → RateCard → Prop
  | start : History first [] first
  | commit {commits : List Commit} {card : RateCard} (history : History first commits card)
      (c : Commit)
      (h : c.edit card = .ok c.card) : History first (c :: commits) c.card

lemma History.card_mem {first : RateCard} {commits : List Commit} {card : RateCard}
    (h : History first commits card) : card ∈ first :: commits.map (·.card) := by
  cases h with
  | start => exact List.mem_cons_self
  | commit history c hc => exact List.mem_cons_of_mem first List.mem_cons_self

/-- A call has made no change. -/
def Uncommitted (commits : List Commit) (i : Nat) : Prop := ∀ c ∈ commits, c.call ≠ i

/-- The result of a call: an update has the card of its own commit, a rebuild has none. -/
def Returns (commits : List Commit) (i : Nat) (call : Call) : Option RateCard → Prop
  | some card => ∃ edit, call = .update edit ∧ ⟨i, edit, card⟩ ∈ commits
  | none => call = .rebuild ∧ Uncommitted commits i

/-- The phase in which an update with this result ends. -/
def CallPhase.ofResult : Except PricingError RateCard → CallPhase
  | .ok card => finished (some card)
  | .error e => refused e

/-- What the phase of a call says of its changes. -/
def CallPhase.Tracks (commits : List Commit) (i : Nat) (call : Call) : CallPhase → Prop
  | waiting edit | editing edit _ => call = .update edit ∧ Uncommitted commits i
  | refused e =>
    ((∃ edit, call = .update edit) ∨ ∃ refusal, call = .undecoded refusal ∧ e = .decode refusal) ∧
      Uncommitted commits i
  | stale result | rebuilding result | building _ result | finished result =>
    Returns commits i call result

namespace SharedProvider

/-- The cards that the store has held, if it held this one first. -/
def held (first : RateCard) (s : SharedProvider) : List RateCard := first :: s.commits.map (·.card)

/-- What holds of a provider at any time, if these calls began on it when its card was the first. -/
structure Consistent (calls : List Call) (first : RateCard) (s : SharedProvider) : Prop where
  /-- No change is lost: the card is what the accepted changes make of the first card. -/
  history : History first s.commits s.card
  /-- No call changes the card twice. -/
  once : (s.commits.map (·.call)).Nodup
  /-- No call is lost. -/
  length_eq : s.calls.length = calls.length
  /-- Each call has done what its phase says, and returns the card of its own commit. -/
  tracked : ∀ (i : Nat) (call : Call) (phase : CallPhase), calls[i]? = some call →
    s.calls[i]? = some phase →
    phase.Tracks s.commits i call
  /-- The rows and the markers of the table come from one card that the store has held. -/
  table : s.provider.table = .empty ∨ ∃ card ∈ s.held first, s.provider.table = .ofCard card
  /-- The table is that of the current card if it has been built and no rebuild is owed. -/
  settled : 0 < s.rebuilds → (∀ phase ∈ s.calls, phase.owesRebuild = false) →
    s.provider.table = .ofCard s.card

/-! ### Steps -/

/-- All that a step of the call at a place can do. -/
inductive Move (s : SharedProvider) (i : Nat) : SharedProvider → Prop
  | takeCard (edit : CardEdit) (hi : s.calls[i]? = some (.waiting edit))
      (hfree : s.cardHolder = none) :
      Move s i ({ s with cardHolder := some i }.setCall i (.editing edit s.card))
  | refuse (edit : CardEdit) (copy : RateCard) (e : PricingError) (files : Files)
      (hi : s.calls[i]? = some (.editing edit copy)) :
      Move s i ({ s with files, cardHolder := none }.setCall i (.refused e))
  | commit (edit : CardEdit) (copy card : RateCard) (files : Files)
      (hi : s.calls[i]? = some (.editing edit copy))
      (hedit : edit copy = .ok card) :
      Move s i ({ s with
        provider := { s.provider with store := { s.provider.store with card } }, files,
        cardHolder := none
        commits := ⟨i, edit, card⟩ :: s.commits }.setCall i (.stale (some card)))
  | takeTable (result : Option RateCard) (hi : s.calls[i]? = some (.stale result))
      (hfree : s.tableHolder = none) :
      Move s i ({ s with tableHolder := some i }.setCall i (.rebuilding result))
  | readCard (result : Option RateCard) (hi : s.calls[i]? = some (.rebuilding result)) :
      Move s i (s.setCall i (.building s.card result))
  | replaceTable (card : RateCard) (result : Option RateCard)
      (hi : s.calls[i]? = some (.building card result)) :
      Move s i (s.replaceTable i card result)

lemma move_commit {s : SharedProvider} {i : Nat} {edit : CardEdit} {copy : RateCard}
    (hi : s.calls[i]? = some (.editing edit copy)) : Move s i (s.commit i edit copy) := by
  have hout := Store.update_outcome { s.provider.store with card := copy } s.files edit
  rw [SharedProvider.commit]
  generalize Store.update { s.provider.store with card := copy } s.files edit = updated at hout ⊢
  obtain ⟨result, store, files⟩ := updated
  cases hout with
  | refused e h => exact .refuse edit copy e s.files hi
  | notOpened card place error _ h hkeep hdevice hfiles =>
    exact .refuse edit copy (.config (.write place error)) files hi
  | brokenOff card path fault _ h hpath hkeep hfault hfills =>
    exact .refuse edit copy (.config (.write path (.device fault.cause))) files hi
  | accepted card _ h hkeep hread => exact .commit edit copy card files hi h

lemma move_of_step {s after : SharedProvider} {i : Nat} (h : s.step i = some after) :
    Move s i after := by
  rw [step] at h
  cases hi : s.calls[i]? with
  | none => simp [hi] at h
  | some phase =>
    cases phase with
    | waiting edit =>
      simp only [hi, Option.isNone_iff_eq_none, Option.ite_none_right_eq_some,
        Option.some.injEq] at h
      obtain ⟨hfree, rfl⟩ := h
      exact .takeCard edit hi hfree
    | editing edit copy =>
      simp only [hi, Option.some.injEq] at h
      subst h
      exact move_commit hi
    | stale result =>
      simp only [hi, Option.isNone_iff_eq_none, Option.ite_none_right_eq_some,
        Option.some.injEq] at h
      obtain ⟨hfree, rfl⟩ := h
      exact .takeTable result hi hfree
    | rebuilding result =>
      simp only [hi, Option.isNone_iff_eq_none, Option.ite_none_right_eq_some,
        Option.some.injEq] at h
      obtain ⟨-, rfl⟩ := h
      exact .readCard result hi
    | building card result =>
      simp only [hi, Option.some.injEq] at h
      subst h
      exact .replaceTable card result hi
    | finished result => simp [hi] at h
    | refused e => simp [hi] at h

/-! ### The invariant -/

/-- What every step keeps. It has more than `Consistent`: who holds which lock, and what a call that
is about to replace the table has read. -/
structure Invariant (calls : List Call) (first : RateCard) (s : SharedProvider) : Prop where
  /-- The copy of a call that holds the lock of the card is the card. -/
  cardLock : ∀ {i : Nat} {edit : CardEdit} {copy : RateCard},
    s.calls[i]? = some (.editing edit copy) →
    s.cardHolder = some i ∧ copy = s.card
  tableLock : ∀ {i : Nat} {phase : CallPhase}, s.calls[i]? = some phase → phase.holdsTable = true →
    s.tableHolder = some i
  history : History first s.commits s.card
  once : (s.commits.map (·.call)).Nodup
  length_eq : s.calls.length = calls.length
  tracked : ∀ {i : Nat} {call : Call} {phase : CallPhase}, calls[i]? = some call →
    s.calls[i]? = some phase →
    phase.Tracks s.commits i call
  /-- A card that was read for the table has been held, and if it is no longer the card, the call
  that replaced it waits. -/
  built : ∀ {i : Nat} {card : RateCard} {result : Option RateCard},
    s.calls[i]? = some (.building card result) →
    card ∈ s.held first ∧
    (card = s.card ∨ ∃ (j : Nat) (c : RateCard), s.calls[j]? = some (.stale (some c)))
  table : s.provider.table = .empty ∨ ∃ card ∈ s.held first, s.provider.table = .ofCard card
  settled : s.rebuilds = 0 ∨ s.provider.table = .ofCard s.card ∨
    ∃ (j : Nat) (phase : CallPhase), s.calls[j]? = some phase ∧ phase.owesRebuild = true

variable {calls : List Call} {first : RateCard} {s after : SharedProvider} {i : Nat}

lemma Invariant.consistent (h : Invariant calls first s) : Consistent calls first s where
  history := h.history
  once := h.once
  length_eq := h.length_eq
  tracked _ _ _ := h.tracked
  table := h.table
  settled := by
    intro hbuilt hnone
    rcases h.settled with hzero | htable | ⟨j, phase, hj, howes⟩
    · omega
    · exact htable
    · rw [hnone phase (List.mem_of_getElem? hj)] at howes
      cases howes

/-- After a step of one call, a call is that call in its new phase, or another call in
the phase it was in. -/
lemma phase_cases {l : List CallPhase} {i j : Nat} {new phase : CallPhase}
    (h : (l.set i new)[j]? = some phase) :
    (j = i ∧ phase = new) ∨ (j ≠ i ∧ l[j]? = some phase) := by
  by_cases hj : j = i
  · subst hj
    rw [List.getElem?_set_self (by simpa using (List.getElem?_eq_some_iff.mp h).1)] at h
    exact .inl ⟨rfl, (Option.some.inj h).symm⟩
  · rw [List.getElem?_set_ne (Ne.symm hj)] at h
    exact .inr ⟨hj, h⟩

/-- A phase that is not the new one belongs to another call, which was in it before. -/
lemma phase_of_ne {l : List CallPhase} {i j : Nat} {new phase : CallPhase}
    (h : (l.set i new)[j]? = some phase) (hne : phase ≠ new) : j ≠ i ∧ l[j]? = some phase := by
  rcases phase_cases h with ⟨-, heq⟩ | hother
  · exact absurd heq hne
  · exact hother

lemma phase_self {l : List CallPhase} {i : Nat} {old : CallPhase} (h : l[i]? = some old)
    (new : CallPhase) : (l.set i new)[i]? = some new :=
  List.getElem?_set_self (List.getElem?_eq_some_iff.mp h).1

lemma phase_other {l : List CallPhase} {i j : Nat} (h : j ≠ i) {phase : CallPhase}
    (hj : l[j]? = some phase) (new : CallPhase) : (l.set i new)[j]? = some phase := by
  rw [List.getElem?_set_ne (Ne.symm h)]
  exact hj

/-- The lock of the card excludes: a call in the middle of a change is the only one. -/
lemma Invariant.editing_unique (h : Invariant calls first s) {j : Nat} {edit edit' : CardEdit}
    {copy copy' : RateCard} (hi : s.calls[i]? = some (.editing edit copy))
    (hj : s.calls[j]? = some (.editing edit' copy')) : j = i :=
  Option.some.inj ((h.cardLock hj).1.symm.trans (h.cardLock hi).1)

/-! #### Locks -/

lemma Invariant.cardLock_move (h : Invariant calls first s) (m : Move s i after) {j : Nat}
    {edit : CardEdit} {copy : RateCard} (hj : after.calls[j]? = some (.editing edit copy)) :
    after.cardHolder = some j ∧ copy = after.card := by
  cases m with
  | takeCard edit' hi hfree =>
    rcases phase_cases hj with ⟨rfl, heq⟩ | ⟨-, hold⟩
    · cases heq
      exact ⟨rfl, rfl⟩
    · have hheld := (h.cardLock hold).1
      rw [hfree] at hheld
      cases hheld
  | refuse _ _ e files hi =>
    obtain ⟨hne, hold⟩ := phase_of_ne hj nofun
    exact absurd (h.editing_unique hi hold) hne
  | commit _ _ card files hi hedit =>
    obtain ⟨hne, hold⟩ := phase_of_ne hj nofun
    exact absurd (h.editing_unique hi hold) hne
  | takeTable result hi hfree =>
    obtain ⟨-, hold⟩ := phase_of_ne hj nofun
    exact h.cardLock hold
  | readCard result hi =>
    obtain ⟨-, hold⟩ := phase_of_ne hj nofun
    exact h.cardLock hold
  | replaceTable card result hi =>
    obtain ⟨-, hold⟩ := phase_of_ne hj nofun
    exact h.cardLock hold

lemma Invariant.tableLock_move (h : Invariant calls first s) (m : Move s i after) {j : Nat}
    {phase : CallPhase} (hj : after.calls[j]? = some phase) (hholds : phase.holdsTable = true) :
    after.tableHolder = some j := by
  cases m with
  | takeCard edit hi hfree =>
    rcases phase_cases hj with ⟨rfl, rfl⟩ | ⟨-, hold⟩
    · cases hholds
    · exact h.tableLock hold hholds
  | refuse edit copy e files hi =>
    rcases phase_cases hj with ⟨rfl, rfl⟩ | ⟨-, hold⟩
    · cases hholds
    · exact h.tableLock hold hholds
  | commit edit copy card files hi hedit =>
    rcases phase_cases hj with ⟨rfl, rfl⟩ | ⟨-, hold⟩
    · cases hholds
    · exact h.tableLock hold hholds
  | takeTable result hi hfree =>
    rcases phase_cases hj with ⟨rfl, rfl⟩ | ⟨-, hold⟩
    · rfl
    · have hheld := h.tableLock hold hholds
      rw [hfree] at hheld
      cases hheld
  | readCard result hi =>
    rcases phase_cases hj with ⟨rfl, rfl⟩ | ⟨-, hold⟩
    · exact h.tableLock hi rfl
    · exact h.tableLock hold hholds
  | replaceTable card result hi =>
    rcases phase_cases hj with ⟨rfl, rfl⟩ | ⟨hne, hold⟩
    · cases hholds
    · exact absurd (Option.some.inj ((h.tableLock hold hholds).symm.trans (h.tableLock hi rfl))) hne

/-! #### Changes of the card -/

/-- The call in the middle of a change has made none so far, and its copy is the card. -/
lemma Invariant.editing (h : Invariant calls first s) {edit : CardEdit} {copy : RateCard}
    (hi : s.calls[i]? = some (.editing edit copy)) :
    calls[i]? = some (.update edit) ∧ Uncommitted s.commits i ∧ copy = s.card := by
  have hlen := (List.getElem?_eq_some_iff.mp hi).1
  rw [h.length_eq] at hlen
  obtain ⟨hcall, hnone⟩ := h.tracked (List.getElem?_eq_getElem hlen) hi
  exact ⟨by rw [List.getElem?_eq_getElem hlen, hcall], hnone, (h.cardLock hi).2⟩

lemma Invariant.history_move (h : Invariant calls first s) (m : Move s i after) :
    History first after.commits after.card := by
  cases m with
  | commit edit copy card files hi hedit =>
    obtain ⟨-, -, rfl⟩ := h.editing hi
    exact .commit h.history ⟨i, edit, card⟩ hedit
  | _ => exact h.history

lemma Invariant.once_move (h : Invariant calls first s) (m : Move s i after) :
    (after.commits.map (·.call)).Nodup := by
  cases m with
  | commit edit copy card files hi hedit =>
    obtain ⟨-, hnone, -⟩ := h.editing hi
    refine List.nodup_cons.mpr ⟨?_, h.once⟩
    intro hmem
    obtain ⟨c, hc, heq⟩ := List.mem_map.mp hmem
    exact hnone c hc heq
  | _ => exact h.once

lemma Invariant.length_move (h : Invariant calls first s) (m : Move s i after) :
    after.calls.length = calls.length := by
  rw [← h.length_eq]
  cases m <;> exact List.length_set

/-- What is known of a call stays known when another call changes the card. -/
lemma tracks_other {commits : List Commit} {c : Commit} {j : Nat} (hne : j ≠ c.call) {call : Call}
    {phase : CallPhase} (h : phase.Tracks commits j call) : phase.Tracks (c :: commits) j call := by
  have hnone : Uncommitted commits j → Uncommitted (c :: commits) j := by
    intro hu k hk
    rcases List.mem_cons.mp hk with rfl | hk
    · exact Ne.symm hne
    · exact hu k hk
  have hreturns : ∀ result, Returns commits j call result →
      Returns (c :: commits) j call result := by
    intro result hr
    cases result with
    | none => exact ⟨hr.1, hnone hr.2⟩
    | some card =>
      obtain ⟨edit, hcall, hmem⟩ := hr
      exact ⟨edit, hcall, List.mem_cons_of_mem c hmem⟩
  cases phase with
  | waiting edit => exact ⟨h.1, hnone h.2⟩
  | editing edit copy => exact ⟨h.1, hnone h.2⟩
  | refused e => exact ⟨h.1, hnone h.2⟩
  | stale result => exact hreturns result h
  | rebuilding result => exact hreturns result h
  | building card result => exact hreturns result h
  | finished result => exact hreturns result h

/-- A step that makes no change keeps what is known of the calls, if the new phase says no
more than the old one. -/
lemma Invariant.tracked_set (h : Invariant calls first s) {old new : CallPhase}
    (hi : s.calls[i]? = some old) {j : Nat} {call : Call} {phase : CallPhase}
    (hcall : calls[j]? = some call) (hj : (s.calls.set i new)[j]? = some phase)
    (hnew : ∀ call, old.Tracks s.commits i call → new.Tracks s.commits i call) :
    phase.Tracks s.commits j call := by
  rcases phase_cases hj with ⟨rfl, rfl⟩ | ⟨-, hold⟩
  · exact hnew call (h.tracked hcall hi)
  · exact h.tracked hcall hold

lemma Invariant.tracked_move (h : Invariant calls first s) (m : Move s i after) {j : Nat}
    {call : Call} {phase : CallPhase} (hcall : calls[j]? = some call)
    (hj : after.calls[j]? = some phase) : phase.Tracks after.commits j call := by
  cases m with
  | takeCard edit hi hfree => exact h.tracked_set hi hcall hj fun _ hold => hold
  | refuse edit copy e files hi =>
    refine h.tracked_set hi hcall hj ?_
    rintro call ⟨hupdate, hnone⟩
    exact ⟨.inl ⟨edit, hupdate⟩, hnone⟩
  | commit edit copy card files hi hedit =>
    rcases phase_cases hj with ⟨rfl, rfl⟩ | ⟨hne, hold⟩
    · obtain ⟨hupdate, -⟩ := h.tracked hcall hi
      exact ⟨edit, hupdate, List.mem_cons_self⟩
    · exact tracks_other hne (h.tracked hcall hold)
  | takeTable result hi hfree => exact h.tracked_set hi hcall hj fun _ hold => hold
  | readCard result hi => exact h.tracked_set hi hcall hj fun _ hold => hold
  | replaceTable card result hi => exact h.tracked_set hi hcall hj fun _ hold => hold

/-! #### The table -/

/-- A card that has been held is so for ever. -/
lemma held_move (m : Move s i after) {card : RateCard} (h : card ∈ s.held first) :
    card ∈ after.held first := by
  cases m with
  | commit edit copy new files hi hedit =>
    rcases List.mem_cons.mp h with rfl | hmem
    · exact List.mem_cons_self
    · exact List.mem_cons_of_mem first (List.mem_cons_of_mem new hmem)
  | _ => exact h

lemma Invariant.built_other (h : Invariant calls first s) {old new : CallPhase}
    (hi : s.calls[i]? = some old)
    (hold : ∀ c, old ≠ .stale (some c)) {j : Nat} {card : RateCard} {result : Option RateCard}
    (hj : s.calls[j]? = some (.building card result)) :
    card ∈ s.held first ∧
    (card = s.card ∨
     ∃ (k : Nat) (c : RateCard), (s.calls.set i new)[k]? = some (.stale (some c))) := by
  obtain ⟨hheld, hcard | ⟨k, c, hk⟩⟩ := h.built hj
  · exact ⟨hheld, .inl hcard⟩
  · have hne : k ≠ i := by
      rintro rfl
      exact hold c (Option.some.inj (hi.symm.trans hk))
    exact ⟨hheld, .inr ⟨k, c, phase_other hne hk new⟩⟩

lemma Invariant.built_move (h : Invariant calls first s) (m : Move s i after) {j : Nat}
    {card : RateCard} {result : Option RateCard}
    (hj : after.calls[j]? = some (.building card result)) :
    card ∈ after.held first ∧
    (card = after.card ∨ ∃ (k : Nat) (c : RateCard), after.calls[k]? = some (.stale (some c))) := by
  cases m with
  | takeCard edit hi hfree =>
    obtain ⟨-, hold⟩ := phase_of_ne hj nofun
    exact h.built_other hi nofun hold
  | refuse edit copy e files hi =>
    obtain ⟨-, hold⟩ := phase_of_ne hj nofun
    exact h.built_other hi nofun hold
  | commit edit copy new files hi hedit =>
    obtain ⟨-, hold⟩ := phase_of_ne hj nofun
    -- The card has just been replaced, and the call that did so is the one that waits.
    exact ⟨held_move (.commit edit copy new files hi hedit) (h.built hold).1,
      .inr ⟨i, new, phase_self hi _⟩⟩
  | takeTable result' hi hfree =>
    obtain ⟨-, hold⟩ := phase_of_ne hj nofun
    -- No call can have read a card for the table while its lock was free.
    have htaken := h.tableLock hold rfl
    rw [hfree] at htaken
    cases htaken
  | readCard result' hi =>
    rcases phase_cases hj with ⟨rfl, heq⟩ | ⟨-, hold⟩
    · cases heq
      exact ⟨h.history.card_mem, .inl rfl⟩
    · exact h.built_other hi nofun hold
  | replaceTable card' result' hi =>
    obtain ⟨-, hold⟩ := phase_of_ne hj nofun
    exact h.built_other hi nofun hold

lemma Invariant.table_move (h : Invariant calls first s) (m : Move s i after) :
    after.provider.table = .empty ∨
    ∃ card ∈ after.held first, after.provider.table = .ofCard card := by
  have hkept : after.provider.table = s.provider.table →
      after.provider.table = .empty ∨
      ∃ card ∈ after.held first, after.provider.table = .ofCard card := by
    intro heq
    rw [heq]
    rcases h.table with hempty | ⟨card, hcard, htable⟩
    · exact .inl hempty
    · exact .inr ⟨card, held_move m hcard, htable⟩
  cases m with
  | replaceTable card result hi => exact .inr ⟨card, (h.built hi).1, rfl⟩
  | _ => exact hkept rfl

/-- A call that owes a rebuild still does so after a step of another call, and after a step of its
own unless it replaces the table. -/
lemma owes_move {old new : CallPhase} (hi : s.calls[i]? = some old)
    (hnew : old.owesRebuild = true → new.owesRebuild = true)
    (h : ∃ (j : Nat) (phase : CallPhase), s.calls[j]? = some phase ∧ phase.owesRebuild = true) :
    ∃ (j : Nat) (phase : CallPhase), (s.calls.set i new)[j]? = some phase ∧
      phase.owesRebuild = true := by
  obtain ⟨j, phase, hj, howes⟩ := h
  by_cases hji : j = i
  · subst hji
    obtain rfl : old = phase := Option.some.inj (hi.symm.trans hj)
    exact ⟨j, new, phase_self hi new, hnew howes⟩
  · exact ⟨j, phase, phase_other hji hj new, howes⟩

lemma Invariant.settled_move (h : Invariant calls first s) (m : Move s i after) :
    after.rebuilds = 0 ∨ after.provider.table = .ofCard after.card ∨
      ∃ (j : Nat) (phase : CallPhase), after.calls[j]? = some phase ∧ phase.owesRebuild = true := by
  cases m with
  | takeCard edit hi hfree => exact h.settled.imp id (Or.imp id (owes_move hi nofun))
  | refuse edit copy e files hi => exact h.settled.imp id (Or.imp id (owes_move hi nofun))
  | commit edit copy card files hi hedit => exact .inr (.inr ⟨i, _, phase_self hi _, rfl⟩)
  | takeTable result hi hfree =>
    refine h.settled.imp id (Or.imp id (owes_move hi ?_))
    cases result with
    | none => nofun
    | some card => exact fun _ => rfl
  | readCard result hi =>
    refine h.settled.imp id (Or.imp id (owes_move hi ?_))
    cases result with
    | none => nofun
    | some card => exact fun _ => rfl
  | replaceTable card result hi =>
    obtain ⟨-, rfl | ⟨k, c, hk⟩⟩ := h.built hi
    · exact .inr (.inl rfl)
    · have hne : k ≠ i := by
        rintro rfl
        rw [hi] at hk
        cases hk
      exact .inr (.inr ⟨k, .stale (some c), phase_other hne hk _, rfl⟩)

/-! ### A call alone -/

/-- The call at a place has ended with this outcome. -/
structure Ends (s : SharedProvider) (i : Nat)
    (outcome : Except PricingError RateCard × Provider × Files) : Prop where
  phase : s.calls[i]? = some (.ofResult outcome.1)
  provider : s.provider = outcome.2.1
  files : s.files = outcome.2.2

lemma run_refused {e : PricingError} (hi : s.calls[i]? = some (.refused e)) (order : List Nat)
    (horder : ∀ j ∈ order, j = i) : s.run order = s := by
  induction order with
  | nil => rfl
  | cons j order ih =>
    obtain ⟨rfl, hrest⟩ := List.forall_mem_cons.mp horder
    have hstep : s.step j = none := by simp only [step, hi]
    rw [run, List.foldl_cons, hstep]
    exact ih hrest

/-- A rebuild that takes all its steps while the locks are free does what the
provider's rebuild does. -/
lemma run_stale {result : Option RateCard} (hi : s.calls[i]? = some (.stale result))
    (hcard : s.cardHolder = none) (htable : s.tableHolder = none) :
    (s.run (List.replicate 3 i)).calls[i]? = some (.finished result) ∧
      (s.run (List.replicate 3 i)).provider = s.provider.rebuild ∧
      (s.run (List.replicate 3 i)).files = s.files := by
  let taken := { s with tableHolder := some i }.setCall i (.rebuilding result)
  have htake : s.step i = some taken := by
    simp only [step, hi, htable, Option.isNone_none, if_true]
    rfl
  have htaken : taken.calls[i]? = some (.rebuilding result) := phase_self hi _
  let read := taken.setCall i (.building s.card result)
  have hread : taken.step i = some read := by
    simp only [step, htaken, show taken.cardHolder = none from hcard, Option.isNone_none, if_true]
    rfl
  have hbuilding : read.calls[i]? = some (.building s.card result) := phase_self htaken _
  have hreplace : read.step i = some (read.replaceTable i s.card result) := by
    simp only [step, hbuilding]
  have hrun : s.run (List.replicate 3 i) = read.replaceTable i s.card result := by
    simp only [run, List.replicate, List.foldl_cons, List.foldl_nil, htake, hread, hreplace,
      Option.getD_some]
  rw [hrun]
  exact ⟨phase_self hbuilding _, rfl, rfl⟩

/-- An update that takes all its steps while the locks are free does what the
provider's update does. -/
lemma run_update {edit : CardEdit} (hi : s.calls[i]? = some (.waiting edit))
    (hcard : s.cardHolder = none) (htable : s.tableHolder = none) :
    Ends (s.run (List.replicate 5 i)) i (s.provider.update s.files edit) := by
  -- The call takes the lock of the card; whether it has to take that of the table is
  -- settled by its commit.
  let taken := { s with cardHolder := some i }.setCall i (.editing edit s.card)
  have htake : s.step i = some taken := by
    simp only [step, hi, hcard, Option.isNone_none, if_true]
    rfl
  have htaken : taken.calls[i]? = some (.editing edit s.card) := phase_self hi _
  have hcommit : taken.step i = some (taken.commit i edit s.card) := by simp only [step, htaken]
  have hrun : s.run (List.replicate 5 i) =
      (taken.commit i edit s.card).run (List.replicate 3 i) := by
    simp only [run, List.replicate, List.foldl_cons, htake, hcommit, Option.getD_some]
  have hout := Store.update_outcome s.provider.store s.files edit
  rw [hrun, commit, Provider.update]
  have hstore : taken.provider.store = s.provider.store := rfl
  have hsame : { s.provider.store with card := s.card } = s.provider.store := rfl
  rw [hstore, hsame, show taken.files = s.files from rfl]
  generalize s.provider.store.update s.files edit = updated at hout ⊢
  obtain ⟨result, store, files⟩ := updated
  have hrefused : ∀ e, store = s.provider.store →
      Ends
        (({ taken with files, cardHolder := none }.setCall i (.refused e)).run (List.replicate 3 i))
        i
        (.error e, { s.provider with store }, files) := by
    rintro e rfl
    have hphase := phase_self htaken (.refused e)
    rw [run_refused hphase _ fun j hj => List.eq_of_mem_replicate hj]
    exact ⟨hphase, rfl, rfl⟩
  cases hout with
  | refused e _ => exact hrefused e rfl
  | notOpened card place error _ _ _ _ _ => exact hrefused _ rfl
  | brokenOff card path fault _ _ _ _ _ _ => exact hrefused _ rfl
  | accepted card _ _ _ _ =>
    let stale := { taken with
      provider := { s.provider with store := { s.provider.store with card } }, files,
      cardHolder := none
      commits := ⟨i, edit, card⟩ :: s.commits }.setCall i (.stale (some card))
    have hstale : stale.calls[i]? = some (.stale (some card)) := phase_self htaken _
    obtain ⟨hphase, hprovider, hfiles⟩ := run_stale hstale rfl htable
    exact ⟨hphase, hprovider, hfiles⟩

/-- A call by a body that takes all its steps while the locks are free comes to what
the body comes to. -/
theorem run_updateByBody {body : CardUpdate.Body}
    (hi : s.calls[i]? = some (.begin (.updateByBody body))) (hcard : s.cardHolder = none)
    (htable : s.tableHolder = none) :
    Ends (s.run (List.replicate 5 i)) i (s.provider.update s.files (Provider.editOfBody body)) := by
  rw [Call.updateByBody] at hi
  cases hbody : CardUpdate.ofBody body with
  | ok changes =>
    rw [hbody] at hi
    have hedit : Provider.editOfBody body = changes.apply := by
      funext card
      rw [Provider.editOfBody, hbody]
    rw [hedit]
    exact run_update hi hcard htable
  | error refusal =>
    rw [hbody] at hi
    have hedit : Provider.editOfBody body s.provider.card = .error (.decode refusal) := by
      rw [Provider.editOfBody, hbody]
    rw [run_refused hi _ fun j hj => List.eq_of_mem_replicate hj, Provider.update,
      Store.update_of_error hedit]
    exact ⟨hi, rfl, rfl⟩

/-- So does a call by a map. -/
theorem run_updateByMap {values : Dictionary String}
    (hi : s.calls[i]? = some (.begin (.updateByMap values))) (hcard : s.cardHolder = none)
    (htable : s.tableHolder = none) :
    Ends (s.run (List.replicate 5 i)) i (s.provider.update s.files (·.setAll values.entries)) :=
  run_update hi hcard htable

/-! ### Whole runs -/

/-- A step keeps the invariant. -/
lemma Invariant.move (h : Invariant calls first s) (m : Move s i after) :
    Invariant calls first after where
  cardLock := h.cardLock_move m
  tableLock := h.tableLock_move m
  history := h.history_move m
  once := h.once_move m
  length_eq := h.length_move m
  tracked := h.tracked_move m
  built := h.built_move m
  table := h.table_move m
  settled := h.settled_move m

lemma Invariant.run (h : Invariant calls first s) (order : List Nat) :
    Invariant calls first (s.run order) := by
  induction order generalizing s with
  | nil => exact h
  | cons i order ih =>
    refine ih ?_
    show Invariant calls first ((s.step i).getD s)
    cases hs : s.step i with
    | none => exact h
    | some after => exact h.move (move_of_step hs)

lemma invariant_start (clusterId : String) (store : Store) (files : Files) (calls : List Call) :
    Invariant calls store.card (start clusterId store files calls) := by
  have hphase : ∀ {i : Nat} {phase : CallPhase},
      (start clusterId store files calls).calls[i]? = some phase →
      ∃ call, calls[i]? = some call ∧ phase = .begin call := by
    intro i phase hi
    obtain ⟨call, hcall, rfl⟩ : ∃ call, calls[i]? = some call ∧ CallPhase.begin call = phase := by
      simpa [start] using hi
    exact ⟨call, hcall, rfl⟩
  constructor
  · intro i edit copy hi
    obtain ⟨call, -, heq⟩ := hphase hi
    cases call <;> cases heq
  · intro i phase hi hholds
    obtain ⟨call, -, rfl⟩ := hphase hi
    cases call <;> cases hholds
  · exact .start
  · exact List.nodup_nil
  · exact List.length_map _
  · intro i call phase hcall hi
    obtain ⟨call', hcall', rfl⟩ := hphase hi
    obtain rfl : call = call' := Option.some.inj (hcall.symm.trans hcall')
    have hnone : Uncommitted [] i := nofun
    cases call with
    | update edit => exact ⟨rfl, hnone⟩
    | undecoded refusal => exact ⟨.inr ⟨refusal, rfl, rfl⟩, hnone⟩
    | rebuild => exact ⟨rfl, hnone⟩
  · intro i card result hi
    obtain ⟨call, -, heq⟩ := hphase hi
    cases call <;> cases heq
  · exact .inl rfl
  · exact .inl rfl

/-- At any time, in whatever order the calls on a provider have taken their steps, no change of the
card is lost, and the table is not stale unless a rebuild is owed. -/
theorem consistent_run (clusterId : String) (store : Store) (files : Files) (calls : List Call)
    (order : List Nat) :
    Consistent calls store.card ((start clusterId store files calls).run order) :=
  ((invariant_start clusterId store files calls).run order).consistent

end SharedProvider

end ClusterCost
