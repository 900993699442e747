
/-!
# Punycode

A label of a domain name in any script, written with the letters, digits and hyphens of ASCII. The
characters of ASCII come first; after a hyphen follow the other characters in ascending order, each
as a number that says how far to go on through all positions of all code points since the one
before. The numbers have digits of base 36 whose weights adapt to the sizes seen so far.
-/

namespace ClusterCost.Punycode

/-! ### Digits -/

def digit (n : Nat) : Char := Char.ofNat (if n < 26 then 0x61 + n else 0x16 + n)

def digitValue? (c : Char) : Option Nat :=
  if 'a' ≤ c && c ≤ 'z' then some (c.toNat - 0x61)
  else if 'A' ≤ c && c ≤ 'Z' then some (c.toNat - 0x41)
  else if '0' ≤ c && c ≤ '9' then some (c.toNat - 0x16)
  else none

/-- The threshold of the digit at this place; a digit below it ends its number. -/
def threshold (place bias : Nat) : Nat := max 1 (min 26 (place - bias))

theorem threshold_bounds (place bias : Nat) :
    1 ≤ threshold place bias ∧ threshold place bias ≤ 26 := by
  unfold threshold; omega

/-- Scale a step down to the middle of its range; `bias` has what was taken off. -/
def scale (delta bias : Nat) : Nat × Nat :=
  if 455 < delta then scale (delta / 35) (bias + 36) else (delta, bias)
termination_by delta
decreasing_by omega

/-- The bias after a step of this size, when `count` characters are placed. -/
def adapt (delta count : Nat) (isFirst : Bool) : Nat :=
  let delta := if isFirst then delta / 700 else delta / 2
  let (delta, bias) := scale (delta + delta / count) 0
  bias + 36 * delta / (delta + 38)

/-! ### Encoding -/

def encodeNumber (bias place n : Nat) : List Char :=
  let t := threshold place bias
  if n < t then [digit n]
  else digit (t + (n - t) % (36 - t)) :: encodeNumber bias (place + 36) ((n - t) / (36 - t))
termination_by n
decreasing_by
  have := threshold_bounds place bias
  calc (n - threshold place bias) / (36 - threshold place bias) ≤
    n - threshold place bias := Nat.div_le_self _ _
    _ < n := by omega

/-- How far the encoding has come: the digits so far in reverse, the steps since the last character,
the bias and the number of characters written. -/
structure Progress where
  digits : List Char
  delta : Nat
  bias : Nat
  count : Nat

/-- Pass one character of the label while the characters with this code point are written. -/
def encodeAt (code basic : Nat) (p : Progress) (c : Char) : Progress :=
  if c.toNat < code then { p with delta := p.delta + 1 }
  else if c.toNat = code then
    ⟨(encodeNumber p.bias 36 p.delta).reverse ++ p.digits, 0,
     adapt p.delta (p.count + 1) (p.count == basic), p.count + 1⟩
  else p

/-- Write the characters of these code points; `seen` is the code point up to which all
are written. -/
def encodeCodes (label : List Char) (basic : Nat) : (seen : Nat) → List Nat → Progress → Progress
  | _, [], p => p
  | seen, code :: codes, p =>
    let p :=
      label.foldl (encodeAt code basic) { p with delta := p.delta + (code - seen) * (p.count + 1) }
    encodeCodes label basic (code + 1) codes { p with delta := p.delta + 1 }

def encode (label : List Char) : List Char :=
  let basic := label.filter (·.toNat < 0x80)
  let codes := ((label.map Char.toNat).filter (0x80 ≤ ·)).mergeSort.eraseDups
  let start := if basic.isEmpty then [] else basic ++ ['-']
  start ++ (encodeCodes label basic.length 0x80 codes ⟨[], 0, 72, basic.length⟩).digits.reverse

/-! ### Decoding -/

/-- Read the numbers in `digits` and place their characters in `label`. `number` and `weight` are
those of the number being read, `place` is the place of its next digit. -/
def decodeDigits : (digits : List Char) → (label : List Char) → (code position bias : Nat) →
    (place number weight : Nat) → Option (List Char)
  | [], label, _, _, _, place, _, _ => if place = 36 then some label else none
  | c :: digits, label, code, position, bias, place, number, weight => do
    let value ← digitValue? c
    let number := number + value * weight
    let t := threshold place bias
    if Nat.pow 2 32 ≤ number then none
    else if t ≤ value then
      decodeDigits digits label code position bias (place + 36) number (weight * (36 - t))
    else
      let size := label.length + 1
      let target := position + number
      let code := code + target / size
      let index := target % size
      if code < 0xD800 || (0xDFFF < code && code < 0x110000) then
        decodeDigits digits (label.take index ++ Char.ofNat code :: label.drop index) code
          (index + 1)
          (adapt number size (position == 0)) 36 0 1
      else none

/-- The label of a text in ASCII, if the text is well formed. -/
def decode? (text : List Char) : Option (List Char) :=
  let digits := (text.reverse.takeWhile (· != '-')).reverse
  let basic := (text.take (text.length - digits.length)).dropLast
  decodeDigits digits basic 0x80 0 72 36 0 1

end ClusterCost.Punycode
