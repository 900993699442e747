import ClusterCost.Decimal.Numeral
import ClusterCost.Json.Error

/-!
# Numbers of JSON texts

The digits of a number are gathered into 64 bits as far as they fit; a number with a point, an
exponent or too many digits is that whole number scaled once or twice by a power of ten.
`Literal.value?` does this scaling, and fails where the result would be infinite.
-/

namespace ClusterCost.Json

/-- The parts of a number: sign, digits before and after the point, exponent. The digits
are bytes of the text. -/
structure Literal where
  negative : Bool
  whole : Bytes
  fraction : Option Bytes
  exponent : Option (Bool × Bytes)

namespace Literal

def isDigit (b : UInt8) : Bool := 0x30 ≤ b && b ≤ 0x39

def digitValue (b : UInt8) : Nat := b.toNat - 0x30

/-- The largest whole number that is kept exactly. -/
def largest : Nat := Nat.pow 2 64 - 1

/-- The nearest number to a whole number of 64 bits. -/
def ofWhole (n : Nat) : Float := n.toUInt64.toFloat

/-- The powers of ten that the format holds. -/
def tenTo (k : Nat) : Float := Float.ofScientific 1 false k

/-- Scale by `10 ^ exponent`, in steps of 308 places while the exponent is lower. -/
def scale (x : Float) (exponent : Int) : (steps : Nat) → Option Float
  | 0 => some 0.0
  | steps + 1 =>
    if exponent.natAbs ≤ 308 then
      if exponent < 0 then some (x / tenTo exponent.natAbs)
      else
        let y := x * tenTo exponent.natAbs
        if y.isInf then none else some y
    else if x == 0.0 then some x
    else if exponent ≥ 0 then none
    else scale (x / tenTo 308) (exponent + 308) steps

/-- Gather digits into 64 bits; the digits from the first that does not fit are returned. -/
def gather (n : Nat) : Bytes → Nat × Bytes
  | [] => (n, [])
  | d :: rest =>
    let next := n * 10 + digitValue d
    if largest < next then (n, d :: rest) else gather next rest

/-- The exponent if it fits 31 bits, or the number of its digits up to the first that
makes it too large. -/
def gatherExponent (n : Nat) (used : Nat) : Bytes → Except Nat Nat
  | [] => .ok n
  | d :: rest =>
    let next := n * 10 + digitValue d
    if Nat.pow 2 31 - 1 < next then .error (used + 1) else gatherExponent next (used + 1) rest

/-- Where a number is found to be out of range: at its end, or after some digits of its exponent. -/
inductive OutOfRange where
  | atEnd
  | inExponent (digits : Nat)

def signed (negative : Bool) (x : Float) : Float := if negative then -x else x

def value? (l : Literal) : Except OutOfRange Number :=
  let (n, rest) := gather 0 l.whole
  match rest, l.fraction, l.exponent with
  | [], none, none =>
    .ok (if !l.negative then .natural n
      else if n == 0 || Nat.pow 2 63 < n then .real (-ofWhole n)
      else .negative n)
  | _, _, _ =>
    let (n, left) := gather n (l.fraction.getD [])
    let kept := (l.fraction.getD []).length - left.length
    let places : Int := (rest.length : Int) - kept
    let scaled (exponent : Int) : Except OutOfRange Number :=
      match scale (ofWhole n) exponent 5 with
      | some x => .ok (.real (signed l.negative x))
      | none => .error .atEnd
    match l.exponent with
    | none => scaled places
    | some (below, digits) =>
      match gatherExponent 0 0 digits with
      | .ok e => scaled (if below then places - e else places + e)
      | .error used =>
        if n != 0 && !below then .error (.inExponent used)
        else .ok (.real (signed l.negative 0.0))

end Literal

def Number.toFloat : Number → Float
  | natural n => Literal.ofWhole n
  | negative n => -Literal.ofWhole n
  | real x => x

end ClusterCost.Json
