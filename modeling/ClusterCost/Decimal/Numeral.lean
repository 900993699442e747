/-!
# Decimal numerals

The texts that denote a binary floating-point number: an optional sign, then `inf`, `infinity` or
`nan` in any case, or digits with an optional point and an optional exponent. `Numeral.read` takes a
text apart and `Numeral.toFloat` gives the nearest number.
-/

namespace ClusterCost

/-- What a numeral says. -/
inductive Numeral where
  | infinite (negative : Bool)
  | notANumber
  /-- The number `± digits · 10 ^ exponent`. -/
  | finite (negative : Bool) (digits : Nat) (exponent : Int)
  deriving DecidableEq, Repr

/-- Why a text is no numeral. -/
inductive NumeralError where
  | empty
  | malformed
  deriving DecidableEq, Repr

namespace NumeralError

def message : NumeralError → String
  | empty => "cannot parse float from empty string"
  | malformed => "invalid float literal"

end NumeralError

namespace Numeral

/-! ### Digits -/

/-- Whether a character is a decimal digit of ASCII. -/
def isDigit (c : Char) : Bool := '0' ≤ c && c ≤ '9'

def digitValue (c : Char) : Nat := c.toNat - '0'.toNat

/-- The number written by these digits after the digits of `n`. -/
def digitsValue (n : Nat) (digits : List Char) : Nat :=
  digits.foldl (fun n c => n * 10 + digitValue c) n

/-- The text of an integer: an optional sign and at least one digit. -/
def readInteger (cs : List Char) : Option Int :=
  let (negative, digits) := match cs with
    | '-' :: rest => (true, rest)
    | '+' :: rest => (false, rest)
    | _ => (false, cs)
  if digits.isEmpty || !digits.all isDigit then none
  else
    let n : Int := digitsValue 0 digits
    some (if negative then -n else n)

/-! ### Reading -/

/-- The exponent at the end of a numeral, zero when there is none. -/
def readExponent : List Char → Option Int
  | [] => some 0
  | c :: rest => if c == 'e' || c == 'E' then readInteger rest else none

/-- The digits after a point, none if there is no point, and what follows them. -/
def splitFraction : List Char → List Char × List Char
  | '.' :: rest => (rest.takeWhile isDigit, rest.dropWhile isDigit)
  | rest => ([], rest)

/-- Digits with an optional point and an optional exponent; at least one digit stands
before the exponent. -/
def readNumber (negative : Bool) (cs : List Char) : Option Numeral :=
  let whole := cs.takeWhile isDigit
  let (fraction, rest) := splitFraction (cs.dropWhile isDigit)
  if whole.isEmpty && fraction.isEmpty then none
  else (readExponent rest).map fun exponent =>
    .finite negative (digitsValue (digitsValue 0 whole) fraction) (exponent - fraction.length)

def readUnsigned (negative : Bool) (cs : List Char) : Option Numeral :=
  let word := String.ofList (cs.map Char.toLower)
  if word == "inf" || word == "infinity" then some (.infinite negative)
  else if word == "nan" then some .notANumber
  else readNumber negative cs

def read (s : String) : Except NumeralError Numeral :=
  match s.toList with
  | [] => .error .empty
  | '-' :: rest => (readUnsigned true rest).elim (.error .malformed) .ok
  | '+' :: rest => (readUnsigned false rest).elim (.error .malformed) .ok
  | cs => (readUnsigned false cs).elim (.error .malformed) .ok

/-! ### Value -/

/-- The number of decimal digits of `n`, one for zero. -/
def width (n : Nat) : Nat := (Nat.toDigits 10 n).length

/-- The nearest number to `digits · 10 ^ exponent`. Numbers of 311 places and more are
infinite, and numbers below `10 ^ -330` are zero, so that no power of ten larger than the
format needs is computed. -/
def magnitude (digits : Nat) (exponent : Int) : Float :=
  if digits == 0 then 0.0
  else
    let places := (width digits : Int) + exponent
    if places > 310 then 1.0 / 0.0
    else if places < -330 then 0.0
    else if exponent < 0 then Float.ofScientific digits true exponent.natAbs
    else Float.ofScientific digits false exponent.natAbs

def toFloat : Numeral → Float
  | infinite negative => if negative then -1.0 / 0.0 else 1.0 / 0.0
  | notANumber => 0.0 / 0.0
  | finite negative digits exponent =>
    if negative then -magnitude digits exponent else magnitude digits exponent

def readFloat (s : String) : Except NumeralError Float := (read s).map toFloat

end Numeral

end ClusterCost
