import ClusterCost.Decimal.Layout
import ClusterCost.Decimal.Numeral
import ClusterCost.Json.Reader
import ClusterCost.Toml.Table

/-!
# Single settings

A setting is a value that a source gives to a name. What reads it says which type it wants, and a
setting of another type is converted where that makes sense: numbers are written out for texts, and
words are taken for truth values and numbers.
-/

namespace ClusterCost

inductive Setting where
  | null
  | bool (b : Bool)
  | integer (n : Int)
  | real (x : Float)
  | text (s : String)
  /-- A list or a table, which no setting is. -/
  | compound

namespace Setting

/-! ### Conversions -/

/-- The truth value of a word, in any case. -/
def wordValue? (s : String) : Option Bool :=
  let word := String.ofList (s.toList.map Char.toLower)
  if word == "true" || word == "on" || word == "yes" then some true
  else if word == "false" || word == "off" || word == "no" then some false
  else none

/-- The number of a text of 64 bits without a sign; a plus in front is allowed. -/
def natural? (s : String) : Option Nat :=
  match s.toList with
  | '-' :: _ => none
  | cs => do
    let n ← Numeral.readInteger cs
    if n < Nat.pow 2 64 then some n.toNat else none

def toText? : Setting → Option String
  | bool b => some (if b then "true" else "false")
  | integer n => some (toString n)
  | real x => some (Layout.plain.write x)
  | text s => some s
  | null | compound => none

/-- A setting as a truth value. Every number but zero is true. -/
def toBool? : Setting → Option Bool
  | bool b => some b
  | integer n => some (n != 0)
  | real x => some (x != 0.0)
  | text s => if s == "1" then some true else if s == "0" then some false else wordValue? s
  | null | compound => none

/-- A setting as a number of 64 bits without a sign. A floating-point number is rounded, halves away
from zero, and brought into the range; a truth value counts one or zero. -/
def toNat? : Setting → Option Nat
  | bool b => some b.toNat
  | integer n => if 0 ≤ n then some n.toNat else none
  | real x => some x.round.toUInt64.toNat
  | text s => ((wordValue? s).map Bool.toNat).or (natural? s)
  | null | compound => none

/-- A setting as a number of so many bits without a sign. -/
def toNatOf? (bits : Nat) (s : Setting) : Option Nat := s.toNat?.filter (· < Nat.pow 2 bits)

def toOptionalText? : Setting → Option (Option String)
  | null => some none
  | s => s.toText?.map some

/-! ### Sources -/

/-- The setting of a variable's text: a truth value, a whole number of 64 bits, a floating-point
number, or else the text. -/
def ofVariable (s : String) : Setting :=
  let word := String.ofList (s.toList.map Char.toLower)
  if word == "true" then bool true
  else if word == "false" then bool false
  else
    match (Numeral.readInteger s.toList).filter fun n => -(Nat.pow 2 63 : Int) ≤ n && n <
      Nat.pow 2 63 with
    | some n => integer n
    | none =>
      match Numeral.readFloat s with
      | .ok x => real x
      | .error _ => text s

/-- The setting of a value of a TOML text. -/
def ofToml : Toml.Value → Setting
  | .bool b => bool b
  | .integer n => integer n
  | .real x => real x
  | .text s => text s
  | .moment m => text m.write
  | .list _ | .table .. | .tables .. => compound

/-- The setting of a number of a JSON text: a whole one if it fits in 64 bits with a sign. -/
def ofJsonNumber : Json.Number → Setting
  | .natural n => if n < Nat.pow 2 63 then integer n else real (Json.Number.natural n).toFloat
  | .negative n => integer (-n)
  | .real x => real x

/-- Read the setting of a value of a JSON text. -/
def reader : Json.Reader Setting := fun r o => do
  o.check r
  match o with
  | .bool _ _ b => pure (bool b)
  | .number _ _ _ (.ok n) => pure (ofJsonNumber n)
  | .text _ _ (.ok s) => pure (text s)
  | .list .. | .object .. => pure compound
  | _ => pure null

end Setting

end ClusterCost
