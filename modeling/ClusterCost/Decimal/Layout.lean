import ClusterCost.Decimal.Shortest

/-!
# Layout of decimals

How a floating-point number is written is decided by a `Layout`: for which magnitudes it is written
positionally, whether a whole number keeps `.0`, which of two equally near decimals is taken, and
the texts of the numbers that have no digits.
-/

namespace ClusterCost

/-- The decisions of a number format. -/
structure Layout where
  /-- Numbers from `10 ^ lowest` up to `10 ^ highest` are written positionally; all others with an
  exponent. No bounds: every number is. -/
  positional : Option (Int × Int)
  /-- A whole number ends in `.0`. -/
  keepsPoint : Bool
  tie : Tie
  infinity : String
  notANumber : String
  deriving Repr

namespace Layout

/-- Numbers in messages and in the text exposition: always positional, whole numbers
without a point. -/
def plain : Layout := ⟨none, false, .up, "inf", "NaN"⟩

/-- Numbers in JSON: positional from `0.00001` up to below `10 ^ 16`, and never without
a point or an exponent. -/
def json : Layout := ⟨some (-5, 16), true, .even, "null", "null"⟩

/-- Write digits with the point after `places` of them. -/
def writePositional (l : Layout) (digits : List Char) (places : Int) : List Char :=
  if places ≤ 0 then '0' :: '.' :: List.replicate places.natAbs '0' ++ digits
  else if digits.length ≤ places.toNat then
    digits ++ List.replicate (places.toNat - digits.length) '0' ++
      if l.keepsPoint then ['.', '0'] else []
  else digits.take places.toNat ++ '.' :: digits.drop places.toNat

/-- Write digits with one place before the point and an exponent. -/
def writeScientific (digits : List Char) (places : Int) : List Char :=
  let exponent := (toString (places - 1)).toList
  match digits with
  | [d] => d :: 'e' :: exponent
  | d :: rest => d :: '.' :: rest ++ 'e' :: exponent
  | [] => 'e' :: exponent

def writeDecimal (l : Layout) (d : Decimal) : List Char :=
  let digits := Nat.toDigits 10 d.digits
  let places := (digits.length : Int) + d.exponent
  let isPositional := match l.positional with
    | none => true
    | some (lowest, highest) => lowest < places && places ≤ highest
  if isPositional then l.writePositional digits places else writeScientific digits places

def write (l : Layout) (x : Float) : String :=
  let sign (negative : Bool) (s : String) := if negative then "-" ++ s else s
  match Binary64.classify x with
  | .notANumber => l.notANumber
  | .infinite negative => sign negative l.infinity
  | .zero negative => sign negative (if l.keepsPoint then "0.0" else "0")
  | .finite negative b => sign negative (String.ofList (l.writeDecimal (b.shortest l.tie)))

end Layout

end ClusterCost
