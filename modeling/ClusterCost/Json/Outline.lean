import ClusterCost.Json.Number

/-!
# Outlines of JSON texts

An outline is what a text says, with the places of its parts, up to the first fault. A fault is part
of the outline: who walks the outline in the order of the text meets the values before the fault
first, and may refuse one of them. A value that is passed over is judged more leniently than one
that is kept, since its texts are not decoded, its numbers are not computed and its depth is not
bounded; so a fault has one failure for each use. A third use is an object that stands for one
variant, whose key is read as a name.
-/

namespace ClusterCost.Json

/-- The end of an outline: the failure for each use of the value. -/
structure Fault where
  kept : Failure
  skipped : Failure
  /-- The failure when the name of a variant is wanted here. -/
  named : Failure

namespace Fault

/-- A fault that differs only for a value that is passed over. -/
def ofFailures (kept skipped : Failure) : Fault := ⟨kept, skipped, kept⟩

/-- A fault that is the same for every use. -/
def ofFailure (f : Failure) : Fault := ofFailures f f

/-- A fault with one cause at one place. -/
def both (cause : Cause) (place : Nat) : Fault := ofFailure ⟨cause, place⟩

/-- A fault found at one place with two causes. -/
def either (kept skipped : Cause) (place : Nat) : Fault := ofFailures ⟨kept, place⟩ ⟨skipped, place⟩

end Fault

/-- A number whose magnitude is infinite: where that is found, and where it is found by a reader
that has already taken the next byte. -/
structure RangeFault where
  place : Nat
  ahead : Nat

/-- The key of a member. -/
structure Key where
  /-- The key, or why it cannot be decoded. -/
  text : Except Failure String
  stop : Nat
  /-- The place of the first byte after the key that is not blank; a closing brace
  there is passed over. -/
  next : Nat
  /-- The place of the first byte after the member's value that is not blank, if the
  value is whole. -/
  after : Nat

/-- A value of a JSON text. `start` and `stop` are the numbers of bytes before it and
through its end. -/
inductive Outline where
  | broken (start : Nat) (fault : Fault)
  | null (start stop : Nat)
  | bool (start stop : Nat) (b : Bool)
  /-- A number; `ahead` also counts the byte after it, if there is one. -/
  | number (start stop ahead : Nat) (value : Except RangeFault Number)
  | text (start stop : Nat) (value : Except Failure String)
  | list (start : Nat) (items : List Outline) (closing : Except Fault Nat)
  | object (start : Nat) (members : List (Key × Outline)) (closing : Except Fault Nat)

namespace Outline

def start : Outline → Nat
  | broken start _ | null start _ | bool start _ _ | number start .. | text start .. | list start ..
  | object start .. => start

/-- The number of bytes through the end of the value, if it has one. -/
def stop? : Outline → Option Nat
  | broken .. => none
  | null _ stop | bool _ stop _ | number _ stop .. | text _ stop _ => some stop
  | list _ _ closing | object _ _ closing => closing.toOption

/-! ### Passing over a value -/

mutual

/-- The first failure met in passing over a value. -/
def skipFailure : Outline → Option Failure
  | broken _ fault => some fault.skipped
  | null .. | bool .. | number .. | text .. => none
  | list _ items closing => (skipItemsFailure items).orElse fun _ => closingFailure closing
  | object _ members closing => (skipMembersFailure members).orElse fun _ => closingFailure closing
where
  closingFailure : Except Fault Nat → Option Failure
    | .ok _ => none
    | .error fault => some fault.skipped

/-- The first failure met in passing over the items of a list. -/
def skipItemsFailure : List Outline → Option Failure
  | [] => none
  | item :: rest => (skipFailure item).orElse fun _ => skipItemsFailure rest

/-- The first failure met in passing over the members of an object. -/
def skipMembersFailure : List (Key × Outline) → Option Failure
  | [] => none
  | (_, value) :: rest => (skipFailure value).orElse fun _ => skipMembersFailure rest

end

end Outline

/-- What follows the value of a text: nothing, or a failure. -/
structure Document where
  value : Outline
  trailing : Option Failure

end ClusterCost.Json
