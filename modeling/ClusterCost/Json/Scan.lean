import ClusterCost.Json.Reading

/-!
# The outline of a text

`Document.scan` makes the outline of a run of bytes. It is total: where the bytes are not JSON, the
outline ends in a fault. The bytes may come from a source that fails after the last of them; then
every place where the text would end too early is a failure of the source instead.
-/

namespace ClusterCost.Json

/-- What comes after the last byte. -/
inductive Ending where
  | finished
  /-- A failure of the source, with its message. -/
  | failed (message : String)

namespace Scan

/-- Bytes still to be read, and the number of bytes read. -/
structure Cursor where
  rest : Bytes
  place : Nat

namespace Cursor

/-- The number of bytes read when the next byte has been looked at. -/
def ahead (c : Cursor) : Nat := if c.rest.isEmpty then c.place else c.place + 1

/-- Pass over these bytes, a prefix of the rest. -/
def advance (c : Cursor) (n : Nat) : Cursor := ⟨c.rest.drop n, c.place + n⟩

end Cursor

/-- Whether a byte is a space, a line break or a tab. -/
def isBlank (b : UInt8) : Bool := b == 0x20 || b == 0x0A || b == 0x09 || b == 0x0D

def skipBlank : Bytes → Nat → Cursor
  | [], place => ⟨[], place⟩
  | b :: rest, place => if isBlank b then skipBlank rest (place + 1) else ⟨b :: rest, place⟩

/-- The cause of a text that ends here, unless its source failed. -/
def Ending.cause (e : Ending) (c : Cause) : Cause :=
  match e with
  | .finished => c
  | .failed message => .unreadable message

/-! ### Words -/

/-- Read the letters of a word after its first. -/
def scanWord (e : Ending) : (letters : Bytes) → Bytes → Nat → Except Fault Cursor
  | [], rest, place => .ok ⟨rest, place⟩
  | _ :: _, [], place => .error (.both (Ending.cause e .endsInValue) place)
  | letter :: letters, b :: rest, place =>
    if b == letter then scanWord e letters rest (place + 1)
    else .error (.both .expectedIdent (place + 1))

/-! ### Texts -/

def hexValue? (b : UInt8) : Option Nat :=
  if 0x30 ≤ b && b ≤ 0x39 then some (b.toNat - 0x30)
  else if 0x41 ≤ b && b ≤ 0x46 then some (b.toNat - 0x37)
  else if 0x61 ≤ b && b ≤ 0x66 then some (b.toNat - 0x57)
  else none

/-- The value of four hexadecimal digits at the front, if there are four bytes. -/
def hexUnit? : Bytes → Option (Option Nat)
  | a :: b :: c :: d :: _ =>
    some do
      pure ((← hexValue? a) * 4096 + (← hexValue? b) * 256 + (← hexValue? c) * 16 + (← hexValue? d))
  | _ => none

/-- The character that a short escape stands for. -/
def shortEscape? (b : UInt8) : Option Char :=
  if b == 0x22 then some '"'
  else if b == 0x5C then some '\\'
  else if b == 0x2F then some '/'
  else if b == 0x62 then some '\x08'
  else if b == 0x66 then some '\x0c'
  else if b == 0x6E then some '\n'
  else if b == 0x72 then some '\r'
  else if b == 0x74 then some '\t'
  else none

/-- Whether a unit is the first or the second of a pair. -/
def isHigh (unit : Nat) : Bool := 0xD800 ≤ unit && unit ≤ 0xDBFF

@[inherit_doc isHigh]
def isLow (unit : Nat) : Bool := 0xDC00 ≤ unit && unit ≤ 0xDFFF

/-- The second unit of a pair, after the first, which ends at `place`. -/
def secondUnit (e : Ending) (bytes : Bytes) (place : Nat) : Except Failure Nat :=
  match bytes with
  | [] => .error ⟨Ending.cause e .endsInText, place⟩
  | 0x5C :: [] => .error ⟨Ending.cause e .endsInText, some (place + 1)⟩
  | 0x5C :: 0x75 :: digits =>
    match hexUnit? digits with
    | none => .error ⟨Ending.cause e .endsInText, some (place + 2 + digits.length)⟩
    | some none => .error ⟨.invalidEscape, some (place + 6)⟩
    | some (some unit) => if isLow unit then .ok unit else .error ⟨.loneSurrogate, some (place + 6)⟩
  | 0x5C :: _ :: _ => .error ⟨.unfinishedEscape, some (place + 2)⟩
  | _ :: _ => .error ⟨.unfinishedEscape, some (place + 1)⟩

/-- The character of a unit and the number of bytes after the unit that belong to it; `place`
is the end of the unit. -/
def unitChar (e : Ending) (unit : Nat) (bytes : Bytes) (place : Nat) :
    Except Failure (Char × Nat) :=
  if isLow unit then .error ⟨.loneSurrogate, some place⟩
  else if isHigh unit then
    (secondUnit e bytes place).map fun second =>
      (Char.ofNat ((unit - 0xD800) * 1024 + (second - 0xDC00) + 0x10000), 6)
  else .ok (Char.ofNat unit, 0)

/-- A text through its closing quote: its value or why it cannot be kept, and what
follows; or a fault. -/
structure Scanned where
  value : Except Failure String
  after : Cursor

/-- Read a text after its opening quote. `seen` holds its characters so far, last first; `bad` is
the first failure of keeping it; `skip` bytes belong to a character that has been read. -/
def scanText (e : Ending) (seen : List Char) (bad : Option Failure) (skip : Nat) :
    Bytes → Nat → Except Fault Scanned
  | [], place =>
    let ends : Failure := ⟨Ending.cause e .endsInText, some place⟩
    .error (.ofFailures (bad.getD ends) ends)
  | b :: rest, place =>
    match skip with
    | skip + 1 => scanText e seen bad skip rest (place + 1)
    | 0 =>
      if b == 0x22 then
        .ok ⟨bad.elim (.ok (String.ofList seen.reverse)) .error, ⟨rest, place + 1⟩⟩
      else if b == 0x5C then
        match rest with
        | [] =>
          let ends : Failure := ⟨Ending.cause e .endsInText, some (place + 1)⟩
          .error (.ofFailures (bad.getD ends) ends)
        | 0x75 :: digits =>
          match hexUnit? digits with
          | none =>
            let ends : Failure := ⟨Ending.cause e .endsInText, some (place + 2 + digits.length)⟩
            .error (.ofFailures (bad.getD ends) ends)
          | some none =>
            let wrong : Failure := ⟨.invalidEscape, some (place + 6)⟩
            .error (.ofFailures (bad.getD wrong) wrong)
          | some (some unit) =>
            match unitChar e unit (digits.drop 4) (place + 6) with
            | .ok (c, more) => scanText e (c :: seen) bad (5 + more) rest (place + 1)
            | .error failure => scanText e seen (bad.or (some failure)) 5 rest (place + 1)
        | escape :: _ =>
          match shortEscape? escape with
          | some c => scanText e (c :: seen) bad 1 rest (place + 1)
          | none =>
            let wrong : Failure := ⟨.invalidEscape, some (place + 2)⟩
            .error (.ofFailures (bad.getD wrong) wrong)
      else if b < 0x20 then
        .error
          (.ofFailures (bad.getD ⟨.controlCharacter, some (place + 1)⟩)
             ⟨.controlCharacter, some place⟩)
      else
        match Utf8.lead b rest with
        | .char c length => scanText e (c :: seen) bad (length - 1) rest (place + 1)
        | .broken _ =>
          scanText e seen (bad.or (some ⟨.invalidCodePoint, some (place + 1)⟩)) 0 rest (place + 1)

/-! ### Numbers -/

/-- The digits at the front, and what follows. -/
def spanDigits (c : Cursor) : Bytes × Cursor :=
  let digits := c.rest.takeWhile Literal.isDigit
  (digits, c.advance digits.length)

/-- A fault where a number needs a digit: the text ends, or another byte was looked at or taken. -/
def needsDigit (e : Ending) (c : Cursor) : Fault :=
  match e with
  | .failed message =>
    if c.rest.isEmpty then .both (.unreadable message) c.place else .both .invalidNumber c.ahead
  | .finished =>
    if c.rest.isEmpty then .either .endsInValue .invalidNumber c.place
    else .both .invalidNumber c.ahead

/-- The digits at the front, at least one. -/
def someDigits (e : Ending) (c : Cursor) : Except Fault (Bytes × Cursor) :=
  match spanDigits c with
  | ([], _) => .error (needsDigit e c)
  | found => .ok found

/-- Read the digits before the point: a zero alone, or digits that do not start with zero. -/
def scanWhole (e : Ending) (c : Cursor) : Except Fault (Bytes × Cursor) :=
  match someDigits e c with
  | .ok (0x30 :: _ :: _, _) => .error (.both .invalidNumber (c.place + 2))
  | found => found

def scanFraction (e : Ending) (c : Cursor) : Except Fault (Option Bytes × Cursor) :=
  match c.rest with
  | 0x2E :: _ => (someDigits e (c.advance 1)).map fun (digits, after) => (some digits, after)
  | _ => .ok (none, c)

/-- Whether the sign at the front is negative, and its length; there may be none. -/
def scanSign : Bytes → Bool × Nat
  | 0x2B :: _ => (false, 1)
  | 0x2D :: _ => (true, 1)
  | _ => (false, 0)

/-- Read an exponent: its letter, an optional sign and its digits. -/
def scanExponent (e : Ending) (c : Cursor) : Except Fault (Option (Bool × Bytes) × Cursor) :=
  match c.rest with
  | letter :: rest =>
    if letter == 0x65 || letter == 0x45 then
      let (negative, length) := scanSign rest
      (someDigits e (c.advance (1 + length))).map fun (digits, after) =>
        (some (negative, digits), after)
    else .ok (none, c)
  | [] => .ok (none, c)

/-- The outline of a number that has been read. -/
def numberOutline (start : Nat) (l : Literal) (after : Cursor) : Outline :=
  .number start after.place after.ahead (match l.value? with
    | .ok n => .ok n
    | .error .atEnd => .error ⟨after.place, after.ahead⟩
    | .error (.inExponent used) =>
      let digits := (l.exponent.map (·.2.length)).getD 0
      .error ⟨after.place - digits + used, after.place - digits + used⟩)

/-- Read a number after its sign. -/
def scanUnsigned (e : Ending) (start : Nat) (negative : Bool) (c : Cursor) :
    Except Fault (Outline × Cursor) := do
  let (whole, c) ← scanWhole e c
  let (fraction, c) ← scanFraction e c
  let (exponent, c) ← scanExponent e c
  match e, c.rest with
  | .failed message, [] => .error (.both (.unreadable message) c.place)
  | _, _ => pure (numberOutline start ⟨negative, whole, fraction, exponent⟩ c, c)

/-- Read a number from its sign or first digit. -/
def scanNumber (e : Ending) (c : Cursor) : Except Fault (Outline × Cursor) :=
  match c.rest with
  | 0x2D :: _ => scanUnsigned e c.place true (c.advance 1)
  | _ => scanUnsigned e c.place false c

/-! ### Values -/

/-- A value and what follows it, if the value is whole. -/
abbrev Step := Outline × Option Cursor

def wordStep (e : Ending) (letters : Bytes) (rest : Bytes) (place : Nat) (value : Nat → Outline) :
    Step :=
  match scanWord e letters rest (place + 1) with
  | .ok after => (value after.place, some after)
  | .error fault => (.broken place fault, none)

mutual

def scanValue (e : Ending) : (fuel : Nat) → Bytes → Nat → Step
  | 0, _, place => (.broken place (.both .endsInValue place), none)
  | fuel + 1, bytes, place =>
    let c := skipBlank bytes place
    match c.rest with
    | [] => (.broken c.place (.both (Ending.cause e .endsInValue) c.place), none)
    | b :: rest =>
      if b == 0x6E then wordStep e [0x75, 0x6C, 0x6C] rest c.place (.null c.place ·)
      else if b == 0x74 then wordStep e [0x72, 0x75, 0x65] rest c.place (.bool c.place · true)
      else if b == 0x66 then
        wordStep e [0x61, 0x6C, 0x73, 0x65] rest c.place (.bool c.place · false)
      else if b == 0x22 then
        match scanText e [] none 0 rest (c.place + 1) with
        | .ok found => (.text c.place found.after.place found.value, some found.after)
        | .error fault => (.broken c.place fault, none)
      else if b == 0x2D || Literal.isDigit b then
        match scanNumber e c with
        | .ok (number, after) => (number, some after)
        | .error fault => (.broken c.place fault, none)
      else if b == 0x5B then scanItems e fuel c.place [] rest (c.place + 1)
      else if b == 0x7B then scanMembers e fuel c.place [] rest (c.place + 1)
      else (.broken c.place (.both .expectedValue (c.place + 1)), none)

/-- Read the items of a list that starts at `start`; `seen` holds those so far, last first. -/
def scanItems (e : Ending) :
    (fuel : Nat) → (start : Nat) → (seen : List Outline) → Bytes → Nat → Step
  | 0, start, seen, _, place => (.list start seen.reverse (.error (.both .endsInList place)), none)
  | fuel + 1, start, seen, bytes, place =>
    let c := skipBlank bytes place
    let broken (fault : Fault) : Step := (.list start seen.reverse (.error fault), none)
    let item (bytes : Bytes) (place : Nat) : Step :=
      match scanValue e fuel bytes place with
      | (value, some after) => scanItems e fuel start (value :: seen) after.rest after.place
      | (value, none) =>
        (.list start (value :: seen).reverse (.error (.both .endsInList place)), none)
    match c.rest with
    | [] => broken (.both (Ending.cause e .endsInList) c.place)
    | b :: rest =>
      if b == 0x5D then (.list start seen.reverse (.ok (c.place + 1)), some ⟨rest, c.place + 1⟩)
      else if seen.isEmpty then item c.rest c.place
      else if b == 0x2C then
        let next := skipBlank rest (c.place + 1)
        match next.rest with
        | [] => broken (.both (Ending.cause e .endsInValue) next.place)
        | 0x5D :: _ => broken (.either .trailingComma .expectedValue next.ahead)
        | _ => item next.rest next.place
      else broken (.both .expectedCommaOrBracket c.ahead)

/-- Read the members of an object that starts at `start`; `seen` holds those so far, last first. -/
def scanMembers (e : Ending) :
    (fuel : Nat) → (start : Nat) → (seen : List (Key × Outline)) → Bytes → Nat → Step
  | 0, start, seen, _, place =>
    (.object start seen.reverse (.error (.both .endsInObject place)), none)
  | fuel + 1, start, seen, bytes, place =>
    let c := skipBlank bytes place
    let broken (fault : Fault) : Step := (.object start seen.reverse (.error fault), none)
    let member (bytes : Bytes) (place : Nat) : Step :=
      match scanText e [] none 0 bytes place with
      | .error fault => broken fault
      | .ok found =>
        let colon := skipBlank found.after.rest found.after.place
        let key : Key := ⟨found.value, found.after.place, colon.place, colon.place⟩
        let brokenMember (key : Key) (fault : Fault) : Step :=
          (.object start ((key, .broken colon.place fault) :: seen).reverse (.error fault), none)
        match colon.rest with
        | [] => brokenMember key (.both (Ending.cause e .endsInObject) colon.place)
        | 0x3A :: rest =>
          match scanValue e fuel rest (colon.place + 1) with
          | (value, some after) =>
            let next := skipBlank after.rest after.place
            scanMembers e fuel start (({ key with after := next.place }, value) :: seen) next.rest
              next.place
          | (value, none) =>
            (.object start ((key, value) :: seen).reverse (.error (.both .endsInObject place)),
             none)
        | b :: _ =>
          let next := if b == 0x7D then colon.ahead else colon.place
          brokenMember { key with next } (.both .expectedColon colon.ahead)
    match c.rest with
    | [] =>
      let fault := Fault.both (Ending.cause e .endsInObject) c.place
      broken
        (if seen.isEmpty then { fault with named := ⟨Ending.cause e .endsInValue, c.place⟩ }
         else fault)
    | b :: rest =>
      if b == 0x7D then (.object start seen.reverse (.ok (c.place + 1)), some ⟨rest, c.place + 1⟩)
      else if seen.isEmpty then
        if b == 0x22 then member rest (c.place + 1)
        else
          let value := (scanValue e fuel c.rest c.place).1
          broken
            { Fault.both .keyNotText c.ahead with
              named := value.mistyped .whole "variant identifier" }
      else if b == 0x2C then
        let next := skipBlank rest (c.place + 1)
        match next.rest with
        | [] =>
          broken (.either (Ending.cause e .endsInValue) (Ending.cause e .endsInObject) next.place)
        | 0x22 :: rest => member rest (next.place + 1)
        | 0x7D :: _ => broken (.either .trailingComma .keyNotText next.ahead)
        | _ => broken (.both .keyNotText next.ahead)
      else broken (.both .expectedCommaOrBrace c.ahead)

end

/-- What follows a value up to the end of the text. -/
def trailingFailure (e : Ending) (after : Cursor) : Option Failure :=
  let c := skipBlank after.rest after.place
  match c.rest, e with
  | [], .finished => none
  | [], .failed message => some ⟨.unreadable message, none⟩
  | _ :: _, _ => some ⟨.trailingCharacters, some (c.place + 1)⟩

end Scan

open Scan in
def Document.scan (bytes : Bytes) (e : Ending) : Document :=
  let c := skipBlank bytes 0
  match c.rest, e with
  | [], .failed message =>
    let failure : Failure := ⟨.unreadable message, none⟩
    ⟨.broken c.place (.ofFailure failure), none⟩
  | _, _ =>
    -- Every step reads a byte or goes from a bracket to what it holds.
    match scanValue e (2 * c.rest.length + 2) c.rest c.place with
    | (value, some after) => ⟨value, trailingFailure e after⟩
    | (value, none) => ⟨value, none⟩

end ClusterCost.Json
