import ClusterCost.Json.Outline

/-!
# How a value is read

A `Reading` is what the place of a failure depends on besides the value: how deep the
value may be, and whether the places are those of a text, of a text whose bytes come one
by one, or of no text at all.
-/

namespace ClusterCost.Json

/-- How a value is read. -/
structure Reading where
  /-- How many lists and objects may still be entered, and one more. -/
  depth : Nat
  /-- The bytes come one by one, so that a byte that was looked at counts as read. -/
  lookahead : Bool
  /-- The value was set aside before its type was known; failures then have no place of
  their own. -/
  held : Bool

namespace Reading

def whole : Reading := ⟨128, false, false⟩

/-- The reading of a text whose bytes come one by one. -/
def streamed : Reading := ⟨128, true, false⟩

/-- The reading of a value that is no longer a text. -/
def heldInFull : Reading := ⟨128, false, true⟩

def place (r : Reading) (n : Nat) : Option Nat := if r.held then none else some n

/-- Enter a list or an object that starts at `start`. -/
def enter (r : Reading) (start : Nat) : Except Failure Reading :=
  if r.held then .ok r
  else if r.depth ≤ 1 then .error ⟨.tooDeep, some (start + 1)⟩
  else .ok { r with depth := r.depth - 1 }

end Reading

namespace Outline

/-- The failure of a value that is not of the expected kind; a fault in the value comes first. -/
def mistyped (r : Reading) (expected : String) : Outline → Failure
  | broken _ fault => fault.kept
  | null _ stop => ⟨.wrongType .null expected, r.place stop⟩
  | bool _ stop b => ⟨.wrongType (.bool b) expected, r.place stop⟩
  | number _ stop ahead (.ok n) =>
    ⟨.wrongType (.number n) expected, r.place (if r.lookahead then ahead else stop)⟩
  | number _ _ _ (.error fault) =>
    ⟨.numberOutOfRange, some (if r.lookahead then fault.ahead else fault.place)⟩
  | text _ _ (.error failure) => failure
  | text _ stop (.ok s) => ⟨.wrongType (.text s) expected, r.place stop⟩
  | list start .. => ⟨.wrongType .list expected, r.place (if r.lookahead then start + 1 else start)⟩
  | object start .. =>
    ⟨.wrongType .object expected, r.place (if r.lookahead then start + 1 else start)⟩

end Outline

end ClusterCost.Json
