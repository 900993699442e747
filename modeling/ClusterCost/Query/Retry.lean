/-!
# Attempts with a fixed delay

What may fail is tried again after a fixed delay, up to a number of attempts. `Retry.decide`
says what follows from one attempt; `Retry.run` makes all attempts and keeps a trace of what
was done. Its loop ends because an attempt is made again only while the counter of the
attempts is below their number.
-/

namespace ClusterCost.Retry

/-- What follows from an attempt. -/
inductive Decision (ε α : Type) where
  | finished (result : Except ε α)
  | again

/-- The number of attempts: at least one. -/
def limit (attempts : Nat) : Nat := max attempts 1

/-- What follows from the outcome of this attempt, counted from one. -/
def decide {ε α : Type} (limit attempt : Nat) : Except ε α → Decision ε α
  | .ok a => .finished (.ok a)
  | .error e => if limit ≤ attempt then .finished (.error e) else .again

/-- Something done in a run. -/
inductive Action where
  /-- The operation was called when the counter of the attempts stood at this number. -/
  | call (attempt : Nat)
  | sleep (delay : Nat)
  deriving DecidableEq, Repr

namespace Action

def isCall : Action → Bool
  | call _ => true
  | sleep _ => false

def duration : Action → Nat
  | call _ => 0
  | sleep delay => delay

end Action

/-- A run: its result, and what was done in order. -/
structure Run (ε α : Type) where
  result : Except ε α
  trace : List Action

namespace Run

variable {ε α : Type}

def calls (r : Run ε α) : Nat := (r.trace.filter (·.isCall)).length

def elapsed (r : Run ε α) : Nat := r.trace.foldr (fun action rest => action.duration + rest) 0

end Run

/-! ### The loop -/

/-- An attempt that is made again is not the last one, so the counter has room for the next. -/
theorem lt_of_decide_again {ε α : Type} {limit attempt : Nat} {outcome : Except ε α}
    (h : decide limit attempt outcome = .again) : attempt < limit := by
  cases outcome with
  | ok a => cases h
  | error e =>
    rw [decide] at h
    split at h
    · cases h
    · exact Nat.lt_of_not_le ‹_›

theorem toNat_succ {limit attempt : UInt32} (h : attempt.toNat < limit.toNat) :
    (attempt + 1).toNat = attempt.toNat + 1 := by
  have hsize := limit.toNat_lt
  rw [UInt32.toNat_add, UInt32.toNat_one]
  omega

/-- The loop before a call: `attempt` is its counter, of 32 bits, and so many calls
have been made. -/
def runFrom {ε α : Type} (delay : Nat) (outcome : Nat → Except ε α) (limit attempt : UInt32)
    (called : Nat) : Run ε α :=
  match _h : decide limit.toNat attempt.toNat (outcome (called + 1)) with
  | .finished result => ⟨result, [.call attempt.toNat]⟩
  | .again =>
    let rest := runFrom delay outcome limit (attempt + 1) (called + 1)
    ⟨rest.result, .call attempt.toNat :: .sleep delay :: rest.trace⟩
termination_by limit.toNat - attempt.toNat
decreasing_by
  have hlt := lt_of_decide_again _h
  rw [toNat_succ hlt]
  omega

/-- Make up to so many attempts, but at least one, at an operation whose call of number `n` has
the outcome `outcome n`. -/
def run {ε α : Type} (attempts : UInt32) (delay : Nat) (outcome : Nat → Except ε α) : Run ε α :=
  runFrom delay outcome (max attempts 1) 1 0

end ClusterCost.Retry
