import ClusterCost.Decimal.Numeral
import ClusterCost.Toml.Text

/-!
# The numbers of TOML

Whole numbers of 64 bits in four bases, and floating-point numbers. A single underscore may
stand between two digits.
-/

namespace ClusterCost.Toml

inductive Number where
  | integer (n : Int)
  | real (x : Float)

namespace Number

/-! ### Digits -/

/-- Read the digits after the first one. `seen` holds those so far, last first. -/
def moreDigits (isDigit : Char → Bool) (seen : List Char) :
    List Char → Option (List Char × List Char)
  | '_' :: c :: rest => if isDigit c then moreDigits isDigit (c :: seen) rest else none
  | ['_'] => none
  | c :: rest =>
    if isDigit c then moreDigits isDigit (c :: seen) rest else some (seen.reverse, c :: rest)
  | [] => some (seen.reverse, [])

/-- Read digits, at least one; underscores are left out. -/
def readDigits (isDigit : Char → Bool) : List Char → Option (List Char × List Char)
  | [] => none
  | c :: rest => if isDigit c then moreDigits isDigit [c] rest else none

def valueIn (base : Nat) (digits : List Char) : Nat :=
  digits.foldl (fun n c => n * base + (hexValue? c).getD 0) 0

/-! ### Whole numbers -/

/-- Read a whole number in another base than ten, after the mark of its base. -/
def readInBase (base : Nat) (cs : List Char) : Option (Number × List Char) := do
  let (digits, rest) ← readDigits (fun c => (hexValue? c).elim false (· < base)) cs
  let n := valueIn base digits
  if n < Nat.pow 2 63 then some (.integer n, rest) else none

/-- The whole number of decimal digits, if it fits in 64 bits with a sign. -/
def integer? (negative : Bool) (digits : List Char) : Option Number :=
  let n : Int := if negative then -valueIn 10 digits else valueIn 10 digits
  if -(Nat.pow 2 63 : Int) ≤ n && n < Nat.pow 2 63 then some (.integer n) else none

/-! ### Floating-point numbers -/

/-- Read the part before the point: a zero alone, or digits that do not start with zero. -/
def readWhole : List Char → Option (List Char × List Char)
  | '0' :: rest => some (['0'], rest)
  | cs => readDigits Numeral.isDigit cs

/-- Read a point and the digits after it, if there is a point. -/
def readFraction : List Char → Option (Option (List Char) × List Char)
  | '.' :: rest => (readDigits Numeral.isDigit rest).map fun (digits, rest) => (some digits, rest)
  | cs => some (none, cs)

def readExponent (cs : List Char) : Option (Option Int × List Char) :=
  let digits (negative : Bool) (cs : List Char) : Option (Option Int × List Char) := do
    let (digits, rest) ← readDigits Numeral.isDigit cs
    let n : Int := valueIn 10 digits
    pure (some (if negative then -n else n), rest)
  match cs with
  | c :: rest =>
    if c == 'e' || c == 'E' then
      match rest with
      | '-' :: rest => digits true rest
      | '+' :: rest => digits false rest
      | _ => digits false rest
    else some (none, cs)
  | [] => some (none, [])

/-- The floating-point number of its parts. A number above all finite ones is refused; one
below them is infinite. -/
def real? (negative : Bool) (whole fraction : List Char) (exponent : Int) : Option Number :=
  let digits := valueIn 10 (whole ++ fraction)
  let x := (Numeral.finite negative digits (exponent - fraction.length)).toFloat
  if x == 1.0 / 0.0 then none else some (.real x)

def readUnsigned (negative : Bool) : List Char → Option (Number × List Char)
  | 'i' :: 'n' :: 'f' :: rest => some (.real (Numeral.infinite negative).toFloat, rest)
  | 'n' :: 'a' :: 'n' :: rest => some (.real Numeral.notANumber.toFloat, rest)
  | cs => do
    let (whole, rest) ← readWhole cs
    let (fraction, rest) ← readFraction rest
    let (exponent, rest) ← readExponent rest
    let number ←
      match fraction, exponent with
      | none, none => integer? negative whole
      | _, _ => real? negative whole (fraction.getD []) (exponent.getD 0)
    pure (number, rest)

/-- Read a number. Only a number without a sign can be in another base than ten. -/
def read : List Char → Option (Number × List Char)
  | '0' :: 'x' :: rest => readInBase 16 rest
  | '0' :: 'o' :: rest => readInBase 8 rest
  | '0' :: 'b' :: rest => readInBase 2 rest
  | '-' :: rest => readUnsigned true rest
  | '+' :: rest => readUnsigned false rest
  | cs => readUnsigned false cs

end Number

end ClusterCost.Toml
