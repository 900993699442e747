/-!
# Shortest decimals

The shortest decimal of a number is the one with the fewest digits among those that read back as the
number, and of these the nearest. A decimal reads back when it lies in the interval of reals that
round to the number; the ends belong to the interval when the mantissa is even. If any decimal on a
grid of powers of ten lies in the interval, one of the two neighbours of the number on that grid
does, so only these are tried.
-/

namespace ClusterCost

/-! ### Binary floating-point numbers taken apart

A finite number of the 64-bit format is `± mantissa · 2 ^ exponent` with a whole mantissa. The
numbers next to it lie one unit of that mantissa away, or half a unit below when the mantissa is
the least of its length. -/

/-- The magnitude of a finite number other than zero. -/
structure Binary64 where
  mantissa : Nat
  exponent : Int
  /-- The number just below is only half as far away as the one just above. -/
  narrowBelow : Bool
  deriving DecidableEq, Repr

/-- The cases of a floating-point number. -/
inductive Binary64.Class where
  | notANumber
  | infinite (negative : Bool)
  | zero (negative : Bool)
  | finite (negative : Bool) (magnitude : Binary64)
  deriving DecidableEq, Repr

namespace Binary64

/-- Take apart the 64 bits of a number: a sign, 11 bits of exponent, 52 bits of fraction. -/
def classifyBits (bits : Nat) : Class :=
  let negative := bits / Nat.pow 2 63 % 2 == 1
  let exponent : Nat := bits / Nat.pow 2 52 % Nat.pow 2 11
  let fraction : Nat := bits % Nat.pow 2 52
  if exponent == 2047 then
    if fraction == 0 then .infinite negative else .notANumber
  else if exponent == 0 then
    if fraction == 0 then .zero negative
    else .finite negative ⟨fraction, -1074, false⟩
  else
    .finite negative
      ⟨Nat.pow 2 52 + fraction, (exponent : Int) - 1075, fraction == 0 && exponent > 1⟩

def classify (x : Float) : Class := classifyBits x.toBits.toNat

end Binary64

/-! ### Decimals -/

/-- Which of two equally near decimals is taken. -/
inductive Tie where
  | even
  | up
  deriving DecidableEq, Repr

/-- The decimal `digits · 10 ^ exponent`. -/
structure Decimal where
  digits : Nat
  exponent : Int
  deriving DecidableEq, Repr

namespace Decimal

/-- The same decimal without zeros at the end of its digits; `fuel` is at least the
number of these zeros. -/
def strip : (fuel : Nat) → Decimal → Decimal
  | 0, d => d
  | fuel + 1, d =>
    if d.digits != 0 && d.digits % 10 == 0 then strip fuel ⟨d.digits / 10, d.exponent + 1⟩ else d

end Decimal

namespace Binary64

/-- The number and the ends of its rounding interval on a grid of powers of ten, all as
multiples of one common unit. -/
structure Grid where
  value : Nat
  low : Nat
  high : Nat
  /-- The distance of the grid's points. -/
  step : Nat

/-- Put a number on the grid of multiples of `10 ^ place`. -/
def grid (b : Binary64) (place : Int) : Grid :=
  -- Quarters of the mantissa's unit make both ends whole.
  let twos := b.exponent - 2
  let scale := Nat.pow 2 twos.toNat * Nat.pow 10 (-place).toNat
  let step := Nat.pow 2 (-twos).toNat * Nat.pow 10 place.toNat
  { value := 4 * b.mantissa * scale
    low := (4 * b.mantissa - if b.narrowBelow then 1 else 2) * scale
    high := (4 * b.mantissa + 2) * scale
    step }

/-- Whether a multiple of the step reads back as the number. -/
def Grid.holds (g : Grid) (closed : Bool) (n : Nat) : Bool :=
  if closed then g.low ≤ n * g.step && n * g.step ≤ g.high
  else g.low < n * g.step && n * g.step < g.high

/-- The nearest point of the grid that reads back as the number, if one does. -/
def Grid.nearest (g : Grid) (closed : Bool) (tie : Tie) : Option Nat :=
  let below := g.value / g.step
  let above := below + 1
  match g.holds closed below && below != 0, g.holds closed above with
  | true, true =>
    let toBelow := g.value - below * g.step
    let toAbove := above * g.step - g.value
    if toBelow < toAbove then some below
    else if toAbove < toBelow then some above
    else match tie with
      | .up => some above
      | .even => some (if below % 2 == 0 then below else above)
  | true, false => some below
  | false, true => some above
  | false, false => none

/-- The number of places before the decimal point of the whole part, or less by the
zeros after it. -/
def places (b : Binary64) : Int :=
  -- A first guess from the number of bits, which is never too high, then at most two steps up.
  let guess := ((b.mantissa.log2 : Int) + b.exponent) * 1233 / 4096
  let reaches (p : Int) : Bool :=
    let g := b.grid p
    g.step ≤ g.value
  if reaches (guess + 2) then guess + 3
  else if reaches (guess + 1) then guess + 2
  else if reaches guess then guess + 1
  else if reaches (guess - 1) then guess
  else guess - 1

/-- Try grids of `tried + 1`, `tried + 2`, … digits; `left` more may be tried. -/
def shortestFrom (b : Binary64) (tie : Tie) (places : Int) : (left : Nat) → (tried : Nat) → Decimal
  | 0, tried =>
    let place := places - tried
    ⟨(b.grid place).value / (b.grid place).step, place⟩
  | left + 1, tried =>
    let place := places - (tried + 1)
    match (b.grid place).nearest (b.mantissa % 2 == 0) tie with
    | some digits => ⟨digits, place⟩
    | none => shortestFrom b tie places left (tried + 1)

/-- The shortest decimal that reads back as the number. Seventeen digits always do. -/
def shortest (b : Binary64) (tie : Tie) : Decimal :=
  (shortestFrom b tie b.places 17 0).strip 20

end Binary64

end ClusterCost
