import ClusterCost.Query.Retry
import Mathlib.Data.Nat.Basic
import Mathlib.Tactic.Common

/-!
# How many attempts are made

A loop of attempts ends with the first success, or with the last attempt that is allowed
(`Retry.run_attempts`). Up to then it calls the operation once for each attempt and sleeps between
two calls. Its counter is the number of the attempt all the time, so it never goes beyond the limit.
-/

namespace ClusterCost.Retry

variable {ε α : Type}

/-! ### What a run does -/

@[simp] lemma Action.isCall_call (attempt : Nat) : (call attempt).isCall = true := rfl

@[simp] lemma Action.isCall_sleep (delay : Nat) : (sleep delay).isCall = false := rfl

@[simp] lemma Action.duration_call (attempt : Nat) : (call attempt).duration = 0 := rfl

@[simp] lemma Action.duration_sleep (delay : Nat) : (sleep delay).duration = delay := rfl

/-- What is done in the attempts from one on, so many in all. -/
def rounds (delay first count : Nat) : List Action :=
  ((List.range' first count).map .call).intersperse (.sleep delay)

section Rounds

variable {delay first count : Nat}

@[simp] lemma rounds_one (delay first : Nat) : rounds delay first 1 = [.call first] := rfl

lemma rounds_succ (delay first count : Nat) :
    rounds delay first (count + 2) =
      .call first :: .sleep delay :: rounds delay (first + 1) (count + 1) := rfl

lemma mem_rounds {i : Nat} (h : .call i ∈ rounds delay first count) :
    first ≤ i ∧ i < first + count := by
  induction count generalizing first with
  | zero => cases h
  | succ count ih =>
    cases count with
    | zero =>
      rw [rounds_one, List.mem_singleton, Action.call.injEq] at h
      omega
    | succ count =>
      rw [rounds_succ, List.mem_cons, List.mem_cons, Action.call.injEq] at h
      obtain rfl | h | h := h
      · omega
      · cases h
      · have hrest := ih h
        omega

/-- The calls, the sleeps and the time that they take in all. -/
lemma counts_rounds : ((rounds delay first count).filter (·.isCall)).length = count ∧
    ((rounds delay first count).filter (!·.isCall)).length = count - 1 ∧
    (rounds delay first count).foldr (fun action rest => action.duration + rest) 0 =
      (count - 1) * delay := by
  induction count generalizing first with
  | zero => simp [rounds]
  | succ count ih =>
    cases count with
    | zero => simp [List.filter_cons]
    | succ count =>
      obtain ⟨hcalls, hsleeps, helapsed⟩ := @ih (first + 1)
      simp only [rounds_succ, List.filter_cons, List.foldr_cons, Action.isCall_call,
        Action.isCall_sleep, Action.duration_call, Action.duration_sleep, helapsed]
      simp [hcalls, hsleeps, Nat.succ_mul, Nat.add_comm]

end Rounds

/-- A run makes so many attempts: it calls the operation for each of them, from the first on, and
sleeps for the delay between each two calls. -/
structure Run.Makes (r : Run ε α) (delay count : Nat) : Prop where
  trace : r.trace = rounds delay 1 count
  calls : r.calls = count
  sleeps : (r.trace.filter (!·.isCall)).length = count - 1
  elapsed : r.elapsed = (count - 1) * delay

lemma Run.makes_of_trace {r : Run ε α} {delay count : Nat} (h : r.trace = rounds delay 1 count) :
    r.Makes delay count where
  trace := h
  calls := by rw [Run.calls, h, counts_rounds.1]
  sleeps := by rw [h, counts_rounds.2.1]
  elapsed := by rw [Run.elapsed, h, counts_rounds.2.2]

/-! ### The loop -/

/-- A call succeeds, and none of those from the first one on that come before it. -/
def FirstSuccess (outcome : Nat → Except ε α) (k : Nat) (a : α) : Prop :=
  1 ≤ k ∧ outcome k = .ok a ∧ ∀ j, 1 ≤ j → j < k → ∃ e, outcome j = .error e

/-- The attempts end with this one: it succeeds or is the last, and those from `first` on
that come before it fail. -/
structure EndsWith (outcome : Nat → Except ε α) (limit first k : Nat) : Prop where
  le : first ≤ k
  fails : ∀ j, first ≤ j → j < k → ∃ e, outcome j = .error e
  last : k = limit ∨ k < limit ∧ ∃ a, outcome k = .ok a

section Loop

variable {outcome : Nat → Except ε α} {limit attempt : UInt32} {delay called k : Nat}

lemma EndsWith.le_limit {limit first : Nat} (h : EndsWith outcome limit first k) : k ≤ limit := by
  rcases h.last with rfl | ⟨hlt, -⟩
  · exact Nat.le_refl k
  · exact Nat.le_of_lt hlt

lemma decide_of_last {limit attempt : Nat} {result : Except ε α}
    (h : attempt = limit ∨ ∃ a, result = .ok a) :
    decide limit attempt result = .finished result := by
  cases result with
  | ok a => rfl
  | error e =>
    obtain rfl | ⟨a, ha⟩ := h
    · rw [decide, if_pos (Nat.le_refl _)]
    · cases ha

lemma decide_of_lt {limit attempt : Nat} (h : attempt < limit) (e : ε) :
    decide limit attempt (.error e : Except ε α) = .again := by
  rw [decide, if_neg (Nat.not_le.mpr h)]

/-- The loop goes on to the attempt that ends it. The counter is one more than the number of
calls before each call. -/
lemma runFrom_eq (hcounter : attempt.toNat = called + 1)
    (hend : EndsWith outcome limit.toNat (called + 1) k) :
    runFrom delay outcome limit attempt called =
      ⟨outcome k, rounds delay (called + 1) (k - called)⟩ := by
  -- the induction is on the number of attempts that follow this one
  obtain ⟨left, rfl⟩ := Nat.exists_eq_add_of_le hend.le
  induction left generalizing attempt called with
  | zero =>
    have hdecide : decide limit.toNat attempt.toNat (outcome (called + 1)) =
        .finished (outcome (called + 1)) :=
      decide_of_last (hend.last.imp (fun h => hcounter.trans h) fun h => h.2)
    rw [runFrom]
    split
    · rename_i result heq
      cases hdecide.symm.trans heq
      rw [hcounter, Nat.add_zero, Nat.add_sub_cancel_left, rounds_one]
    · rename_i heq
      cases hdecide.symm.trans heq
  | succ left ih =>
    obtain ⟨e, he⟩ := hend.fails (called + 1) (Nat.le_refl _) (by omega)
    have hlt : attempt.toNat < limit.toNat := by
      have hle := hend.le_limit
      omega
    have hdecide : decide limit.toNat attempt.toNat (outcome (called + 1)) = .again := by
      rw [he, decide_of_lt hlt]
    have hnext : called + 1 + (left + 1) = called + 1 + 1 + left := by omega
    have hrest : EndsWith outcome limit.toNat (called + 1 + 1) (called + 1 + 1 + left) :=
      ⟨Nat.le_add_right _ _, fun j hj hj' => hend.fails j (by omega) (by omega), hnext ▸ hend.last⟩
    have hcount : called + 1 + (left + 1) - called = left + 2 := by omega
    have hcount' : called + 1 + 1 + left - (called + 1) = left + 1 := by omega
    rw [runFrom]
    split
    · rename_i result heq
      cases hdecide.symm.trans heq
    · rw [ih (by rw [toNat_succ hlt, hcounter]) hrest, hcounter, hcount, hcount',
        rounds_succ, hnext]

lemma toNat_max_one (attempts : UInt32) : (max attempts 1).toNat = max attempts.toNat 1 := by
  rw [Nat.max_def]
  exact apply_ite UInt32.toNat (attempts ≤ 1) 1 attempts

lemma run_eq {attempts : UInt32} (hend : EndsWith outcome (max attempts.toNat 1) 1 k) :
    run attempts delay outcome = ⟨outcome k, rounds delay 1 k⟩ := by
  rw [← toNat_max_one] at hend
  exact runFrom_eq rfl hend

/-- If no first success comes by an attempt, then all up to this one fail. -/
lemma fails_of_late {n : Nat} (h : ∀ k a, FirstSuccess outcome k a → n < k) {j : Nat} (hpos : 1 ≤ j)
    (hj : j ≤ n) : ∃ e, outcome j = .error e := by
  induction j using Nat.strong_induction_on with
  | h j ih =>
    cases houtcome : outcome j with
    | error e => exact ⟨e, rfl⟩
    | ok a =>
      have hlate := h j a ⟨hpos, houtcome, fun i hi hij => ih i hij hi (by omega)⟩
      omega

lemma FirstSuccess.endsWith {n : Nat} {a : α} (h : FirstSuccess outcome k a) (hk : k ≤ n) :
    EndsWith outcome n 1 k where
  le := h.1
  fails := h.2.2
  last := (Nat.eq_or_lt_of_le hk).imp_right fun hlt => ⟨hlt, a, h.2.1⟩

lemma endsWith_limit {n : Nat} (hn : 1 ≤ n) (h : ∀ k a, FirstSuccess outcome k a → n < k) :
    EndsWith outcome n 1 n where
  le := hn
  fails _ hpos hj := fails_of_late h hpos (Nat.le_of_lt hj)
  last := .inl rfl

end Loop

/-! ### Whole runs -/

/-- If the first success comes by the last attempt that is allowed, a run ends with it and has its
value; else it makes all the attempts and has the error of the last one. The counter is between one
and the number of attempts, so it fits its 32 bits. -/
theorem run_attempts (attempts : UInt32) (delay : Nat) (outcome : Nat → Except ε α) :
    (∀ k a, FirstSuccess outcome k a → k ≤ max attempts.toNat 1 →
      (run attempts delay outcome).result = .ok a ∧ (run attempts delay outcome).Makes delay k) ∧
    ((∀ k a, FirstSuccess outcome k a → max attempts.toNat 1 < k) →
      ∃ e, outcome (max attempts.toNat 1) = .error e ∧
        (run attempts delay outcome).result = .error e ∧
        (run attempts delay outcome).Makes delay (max attempts.toNat 1)) ∧
    ∀ i, .call i ∈ (run attempts delay outcome).trace →
      1 ≤ i ∧ i ≤ max attempts.toNat 1 ∧ i < UInt32.size := by
  generalize hn : max attempts.toNat 1 = n
  have hpos : 1 ≤ n := hn ▸ Nat.le_max_right _ _
  have hsize : n < UInt32.size := by
    rw [← hn, ← toNat_max_one]
    exact UInt32.toNat_lt _
  have hrun : ∀ k, EndsWith outcome n 1 k →
      run attempts delay outcome = ⟨outcome k, rounds delay 1 k⟩ := fun k hend =>
    run_eq (hn ▸ hend)
  refine ⟨fun k a hfirst hk => ?_, fun hlate => ?_, fun i hi => ?_⟩
  · rw [hrun k (hfirst.endsWith hk)]
    exact ⟨hfirst.2.1, Run.makes_of_trace rfl⟩
  · obtain ⟨e, he⟩ := fails_of_late hlate hpos (Nat.le_refl _)
    rw [hrun n (endsWith_limit hpos hlate)]
    exact ⟨e, he, he, Run.makes_of_trace rfl⟩
  · obtain ⟨k, hk, htrace⟩ : ∃ k ≤ n, (run attempts delay outcome).trace = rounds delay 1 k := by
      by_cases hsuccess : ∃ k a, FirstSuccess outcome k a ∧ k ≤ n
      · obtain ⟨k, a, hfirst, hk⟩ := hsuccess
        exact ⟨k, hk, by rw [hrun k (hfirst.endsWith hk)]⟩
      · simp only [not_exists, not_and, Nat.not_le] at hsuccess
        exact ⟨n, Nat.le_refl n, by rw [hrun n (endsWith_limit hpos hsuccess)]⟩
    have hbounds := mem_rounds (htrace ▸ hi)
    omega

/-- Without any attempt allowed there is one all the same, and with all of them a success that
comes late is waited for. -/
theorem run_attempts_zero_and_all :
    let outcome : Nat → Except String Nat := fun n => if n < 3 then .error (toString n) else .ok n
    FirstSuccess outcome 3 3 ∧ (run 0 10 outcome).result = .error "1" ∧
    (run 0 10 outcome).trace = [.call 1] ∧
      (run 4294967295 10 outcome).result = .ok 3 ∧
      (run 4294967295 10 outcome).trace = [.call 1, .sleep 10, .call 2, .sleep 10, .call 3] := by
  intro outcome
  have hfirst : FirstSuccess outcome 3 3 := by
    refine ⟨by decide, rfl, fun j _ hj => ⟨toString j, ?_⟩⟩
    simp only [outcome, if_pos hj]
  have hlate : ∀ k a, FirstSuccess outcome k a → max (UInt32.toNat 0) 1 < k := by
    rintro k a ⟨hpos, hk, -⟩
    rcases Nat.eq_or_lt_of_le hpos with rfl | hlt
    · cases hk
    · exact hlt
  obtain ⟨e, he, hresult, hmakes⟩ := (run_attempts 0 10 outcome).2.1 hlate
  cases he
  obtain ⟨hok, hall⟩ := (run_attempts 4294967295 10 outcome).1 3 3 hfirst (by decide)
  exact ⟨hfirst, hresult, hmakes.trace, hok, hall.trace⟩

end ClusterCost.Retry
