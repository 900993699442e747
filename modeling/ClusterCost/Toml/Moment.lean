import ClusterCost.Decimal.Numeral
import ClusterCost.Toml.Text

/-!
# The dates and times of TOML

A moment is a date, a time of day, or both, in which case it may say how far its clock is from
universal time. A fraction of a second has nine digits; further ones are dropped.
-/

namespace ClusterCost.Toml

/-- A day of the calendar. -/
structure Date where
  year : Nat
  month : Nat
  day : Nat
  deriving DecidableEq, Repr

/-- A time of day. -/
structure Time where
  hour : Nat
  minute : Nat
  second : Nat
  nanosecond : Nat
  deriving DecidableEq, Repr

/-- How far a clock is ahead of universal time. -/
inductive Offset where
  /-- Not at all, in the short form. -/
  | universal
  | minutes (n : Int)
  deriving DecidableEq, Repr

/-- A date or time. -/
inductive Moment where
  | date (d : Date)
  | time (t : Time)
  | both (d : Date) (t : Time) (offset : Option Offset)
  deriving DecidableEq, Repr

namespace Moment

/-! ### Reading -/

def readNumber (length : Nat) (cs : List Char) : Option (Nat × List Char) :=
  let digits := cs.take length
  if digits.length == length && digits.all Numeral.isDigit then
    some (Numeral.digitsValue 0 digits, cs.drop length)
  else none

/-- Read a number of two digits that is in these bounds. -/
def readBetween (low high : Nat) (cs : List Char) : Option (Nat × List Char) := do
  let (n, rest) ← readNumber 2 cs
  if low ≤ n && n ≤ high then some (n, rest) else none

def readMark (mark : Char) : List Char → Option (List Char)
  | c :: rest => if c == mark then some rest else none
  | [] => none

def daysIn (year month : Nat) : Nat :=
  if month == 2 then if year % 4 == 0 && (year % 100 != 0 || year % 400 == 0) then 29 else 28
  else if month == 4 || month == 6 || month == 9 || month == 11 then 30
  else 31

def readDate (cs : List Char) : Option (Date × List Char) := do
  let (year, rest) ← readNumber 4 cs
  let (month, rest) ← readBetween 1 12 (← readMark '-' rest)
  let (day, rest) ← readBetween 1 (daysIn year month) (← readMark '-' rest)
  pure (⟨year, month, day⟩, rest)

/-- Read the fraction of a second, if there is one, in billionths. -/
def readFraction : List Char → Option (Nat × List Char)
  | '.' :: rest =>
    let digits := rest.takeWhile Numeral.isDigit
    if digits.isEmpty then none
    else
      let kept := digits.take 9
      some
        (Numeral.digitsValue 0 kept * Nat.pow 10 (9 - kept.length), rest.dropWhile Numeral.isDigit)
  | cs => some (0, cs)

/-- Read a time of day. A minute may have a leap second. -/
def readTime (cs : List Char) : Option (Time × List Char) := do
  let (hour, rest) ← readBetween 0 23 cs
  let (minute, rest) ← readBetween 0 59 (← readMark ':' rest)
  let (second, rest) ← readBetween 0 60 (← readMark ':' rest)
  let (nanosecond, rest) ← readFraction rest
  pure (⟨hour, minute, second, nanosecond⟩, rest)

def readOffset : List Char → Option (Option Offset × List Char)
  | c :: rest =>
    if c == 'Z' || c == 'z' then some (some .universal, rest)
    else if c == '+' || c == '-' then do
      let (hour, rest) ← readBetween 0 23 rest
      let (minute, rest) ← readBetween 0 59 (← readMark ':' rest)
      let n : Int := hour * 60 + minute
      pure (some (.minutes (if c == '-' then -n else n)), rest)
    else some (none, c :: rest)
  | [] => some (none, [])

/-- Read a date or time. A time follows its date after the letter T or one space; if what follows
the date is no time, the date stands alone. -/
def read (cs : List Char) : Option (Moment × List Char) :=
  match readDate cs with
  | none => (readTime cs).map fun (t, rest) => (time t, rest)
  | some (d, rest) =>
    match rest with
    | [] => some (date d, [])
    | c :: after =>
      if c == 'T' || c == 't' || c == ' ' then
        match readTime after with
        | none => some (date d, rest)
        | some (t, after) => (readOffset after).map fun (offset, after) => (both d t offset, after)
      else some (date d, rest)

/-! ### Writing -/

/-- A number with zeros in front. -/
def padded (length n : Nat) : String :=
  let digits := Nat.toDigits 10 n
  String.ofList (List.replicate (length - digits.length) '0' ++ digits)

def writeDate (d : Date) : String :=
  padded 4 d.year ++ "-" ++ padded 2 d.month ++ "-" ++ padded 2 d.day

/-- The written form of a time, with no more digits of the fraction than it needs. -/
def writeTime (t : Time) : String :=
  let fraction := ((padded 9 t.nanosecond).toList.reverse.dropWhile (· == '0')).reverse
  padded 2 t.hour ++ ":" ++ padded 2 t.minute ++ ":" ++ padded 2 t.second ++
    if fraction.isEmpty then "" else "." ++ String.ofList fraction

def writeOffset : Offset → String
  | .universal => "Z"
  | .minutes n =>
    (if n < 0 then "-" else "+") ++ padded 2 (n.natAbs / 60) ++ ":" ++ padded 2 (n.natAbs % 60)

def write : Moment → String
  | date d => writeDate d
  | time t => writeTime t
  | both d t offset => writeDate d ++ "T" ++ writeTime t ++ offset.elim "" writeOffset

end Moment

end ClusterCost.Toml
