import ClusterCost.Json.Scan

/-!
# Reading values from an outline

A `Reader` takes a value of a wanted type from an outline, walking it in the order of the text, so
that of several failures the first in the text is reported. Lists and objects that are read, and not
passed over, may be nested 127 deep.
-/

namespace ClusterCost.Json

/-- A way to read values of a type. -/
abbrev Reader (α : Type) := Reading → Outline → Except Failure α

namespace Outline

/-! ### Keeping a value of any type -/

/-- The end of a list or an object that is kept. -/
def closingKept : Except Fault Nat → Except Failure Unit
  | .ok _ => .ok ()
  | .error fault => .error fault.kept

mutual

/-- Check that a value of any type can be kept. -/
def check : Reader Unit
  | r, list start items closing => do
    checkItems (← r.enter start) items
    closingKept closing
  | r, object start members closing => do
    checkMembers (← r.enter start) members
    closingKept closing
  | _, broken _ fault => .error fault.kept
  | r, number _ _ _ (.error fault) =>
    .error ⟨.numberOutOfRange, some (if r.lookahead then fault.ahead else fault.place)⟩
  | _, text _ _ (.error failure) => .error failure
  | _, _ => .ok ()

def checkItems (r : Reading) : List Outline → Except Failure Unit
  | [] => .ok ()
  | item :: rest => do
    check r item
    checkItems r rest

def checkMembers (r : Reading) : List (Key × Outline) → Except Failure Unit
  | [] => .ok ()
  | (key, value) :: rest => do
    let _ ← key.text
    check r value
    checkMembers r rest

end

end Outline

namespace Reader

/-! ### Scalars -/

def text : Reader String
  | _, .text _ _ (.ok s) => .ok s
  | r, o => .error (o.mistyped r "a string")

def bool : Reader Bool
  | _, .bool _ _ b => .ok b
  | r, o => .error (o.mistyped r "a boolean")

def real : Reader Float
  | _, .number _ _ _ (.ok n) => .ok n.toFloat
  | r, o => .error (o.mistyped r "f64")

/-- A whole number of 64 bits with a sign. -/
def integer : Reader Int
  | r, .number start stop ahead (.ok (.natural n)) =>
    if n < Nat.pow 2 63 then .ok n
    else
      -- The place is that of any refused number.
      let failure := (Outline.number start stop ahead (.ok (.natural n))).mistyped r "i64"
      .error { failure with cause := .wrongValue (.number (.natural n)) "i64" }
  | _, .number _ _ _ (.ok (.negative n)) => .ok (-n)
  | r, o => .error (o.mistyped r "i64")

/-- A value, or nothing where the text says `null`. -/
def optional {α : Type} (read : Reader α) : Reader (Option α)
  | _, .null .. => .ok none
  | r, o => (read r o).map some

/-! ### Lists and maps -/

def list {α : Type} (read : Reader α) : Reader (List α)
  | r, .list start items closing => do
    let r ← r.enter start
    let values ← items.mapM (read r)
    match closing with
    | .ok _ => pure values
    | .error fault => throw fault.kept
  | r, o => .error (o.mistyped r "a sequence")

/-- The members of an object, in the order of the text. -/
def members {α : Type} (read : Reader α) : Reader (List (String × α))
  | r, .object start members closing => do
    let r ← r.enter start
    let values ← members.mapM fun (key, value) => do pure ((← key.text), (← read r value))
    match closing with
    | .ok _ => pure values
    | .error fault => throw fault.kept
  | r, o => .error (o.mistyped r "a map")

/-- The failure of a list of fixed length that goes on after its last wanted item. -/
def overrun (r : Reading) (wanted : Nat) (items : List Outline) (closing : Except Fault Nat) :
    Except Failure Unit :=
  match items.drop wanted, closing with
  | [], .ok _ => .ok ()
  | [], .error fault =>
    match fault.kept.cause with
    | .endsInList | .trailingComma | .unreadable _ => .error fault.kept
    | _ => .error { fault.kept with cause := .trailingCharacters }
  | next :: _, _ =>
    if r.held then
      let plural := if wanted == 1 then " element in sequence" else " elements in sequence"
      .error ⟨.wrongLength items.length (toString wanted ++ plural), none⟩
    else .error ⟨.trailingCharacters, some (next.start + 1)⟩

/-- The failure of a list of fixed length that ends before its item of this number. -/
def tooShort {α : Type} (r : Reading) (length : Nat) (expected : String) :
    Except Fault Nat → Except Failure α
  | .ok stop => .error ⟨.wrongLength length expected, r.place stop⟩
  | .error fault => .error fault.kept

def pair {α β : Type} (first : Reader α) (second : Reader β) : Reader (α × β)
  | r, .list start items closing => do
    let r ← r.enter start
    match items with
    | [] => tooShort r 0 "a tuple of size 2" closing
    | [a] => do
      let _ ← first r a
      tooShort r 1 "a tuple of size 2" closing
    | a :: b :: _ => do
      let x ← first r a
      let y ← second r b
      overrun r 2 items closing
      pure (x, y)
  | r, o => .error (o.mistyped r "a tuple of size 2")

/-! ### Variants -/

def findVariant {α : Type} (variants : List (String × α)) (name : String) (place : Option Nat) :
    Except Failure α :=
  match variants.lookup name with
  | some a => .ok a
  | none => .error ⟨.unknownVariant name (variants.map (·.1)), place⟩

/-- One of several names, alone or as the key of a single member whose value is `null`. -/
def variant {α : Type} (variants : List (String × α)) : Reader α
  | r, .text _ stop (.ok name) => findVariant variants name (r.place stop)
  | _, .text _ _ (.error failure) => .error failure
  | _, .broken start fault =>
    -- A word or a number is refused at its first byte, whatever is wrong with the rest of it.
    match fault.kept.cause with
    | .expectedIdent | .invalidNumber => .error ⟨.expectedValue, some (start + 1)⟩
    | .endsInValue =>
      if fault.kept.place == some start then .error fault.kept
      else .error ⟨.expectedValue, some (start + 1)⟩
    | _ => .error fault.kept
  | r, .object start members closing => do
    let r ← r.enter start
    if r.held && members.length != 1 then
      throw ⟨.wrongValue .object "map with a single key", none⟩
    match members, closing with
    | [], .ok stop => throw ⟨.expectedValue, some stop⟩
    | [], .error fault => throw fault.named
    | (key, value) :: rest, closing => do
      let a ← findVariant variants (← key.text) (r.place key.stop)
      match value with
      | .null .. => pure ()
      | o => throw (o.mistyped r "unit")
      match rest, closing with
      | [], .ok _ => pure a
      | [], .error fault =>
        match fault.kept.cause with
        | .endsInObject | .unreadable _ => throw fault.kept
        | _ => throw ⟨.expectedValue, some key.after⟩
      | _, _ => throw ⟨.expectedValue, some key.after⟩
  | r, o =>
    if r.held then .error (o.mistyped r "string or map")
    else .error ⟨.expectedValue, some (o.start + 1)⟩

end Reader

/-- Read the value of a whole document; the text must end after it. -/
def Document.read {α : Type} (d : Document) (r : Reading) (read : Reader α) : Except Failure α := do
  let value ← read r d.value
  match d.trailing with
  | none => pure value
  | some failure => throw failure

def readText {α : Type} (read : Reader α) (text : Bytes) : Except Failure α :=
  (Document.scan text .finished).read .whole read

end ClusterCost.Json
