import ClusterCost.Decimal.Layout
import ClusterCost.Text.Utf8

/-!
# Writing JSON

Values to be written, and their two written forms: compact, without blanks, and pretty, with a line
for each item and two spaces of indentation for each level. A text is escaped byte by byte; only
quotes, backslashes and control characters are escaped.
-/

namespace ClusterCost.Json

/-- A value to be written. -/
inductive Value where
  | null
  | bool (b : Bool)
  | integer (n : Int)
  | real (x : Float)
  | text (s : String)
  | list (items : List Value)
  | object (members : List (String × Value))
  deriving Inhabited

namespace Value

def hexDigit (n : Nat) : UInt8 := (if n < 10 then 0x30 + n else 0x57 + n).toUInt8

/-- How a byte of a text is written. -/
def escapeByte (b : UInt8) : Bytes :=
  if b == 0x22 then [0x5C, 0x22]
  else if b == 0x5C then [0x5C, 0x5C]
  else if b == 0x08 then [0x5C, 0x62]
  else if b == 0x0C then [0x5C, 0x66]
  else if b == 0x0A then [0x5C, 0x6E]
  else if b == 0x0D then [0x5C, 0x72]
  else if b == 0x09 then [0x5C, 0x74]
  else if b < 0x20 then [0x5C, 0x75, 0x30, 0x30, hexDigit (b.toNat / 16), hexDigit (b.toNat % 16)]
  else [b]

def writeText (s : String) : Bytes := 0x22 :: (Utf8.encode s).flatMap escapeByte ++ [0x22]

/-- A value without parts; a number that is infinite or not a number is written as `null`. -/
def writeScalar : Value → Bytes
  | null => Utf8.encode "null"
  | bool b => Utf8.encode (if b then "true" else "false")
  | integer n => Utf8.encode (toString n)
  | real x => Utf8.encode (if x.isFinite then Layout.json.write x else "null")
  | text s => writeText s
  | list _ | object _ => []

/-! ### The compact form -/

mutual

def compact : Value → Bytes
  | list items => 0x5B :: compactItems items ++ [0x5D]
  | object members => 0x7B :: compactMembers members ++ [0x7D]
  | scalar => writeScalar scalar

/-- The items of a list, with commas between them. -/
def compactItems : List Value → Bytes
  | [] => []
  | [item] => compact item
  | item :: rest => compact item ++ 0x2C :: compactItems rest

/-- The members of an object, with commas between them. -/
def compactMembers : List (String × Value) → Bytes
  | [] => []
  | [(key, value)] => writeText key ++ 0x3A :: compact value
  | (key, value) :: rest => writeText key ++ 0x3A :: compact value ++ 0x2C :: compactMembers rest

end

/-! ### The pretty form -/

/-- A line break and the indentation of a level. -/
def newLine (level : Nat) : Bytes := 0x0A :: List.replicate (2 * level) 0x20

mutual

/-- The pretty form of a value whose parts stand on this level. -/
def prettyAt (level : Nat) : Value → Bytes
  | list [] => [0x5B, 0x5D]
  | object [] => [0x7B, 0x7D]
  | list items => 0x5B :: prettyItems (level + 1) items ++ newLine level ++ [0x5D]
  | object members => 0x7B :: prettyMembers (level + 1) members ++ newLine level ++ [0x7D]
  | scalar => writeScalar scalar

/-- The items of a list, each on a line of its own. -/
def prettyItems (level : Nat) : List Value → Bytes
  | [] => []
  | [item] => newLine level ++ prettyAt level item
  | item :: rest => newLine level ++ prettyAt level item ++ 0x2C :: prettyItems level rest

/-- The members of an object, each on a line of its own. -/
def prettyMembers (level : Nat) : List (String × Value) → Bytes
  | [] => []
  | [(key, value)] => newLine level ++ writeText key ++ 0x3A :: 0x20 :: prettyAt level value
  | (key, value) :: rest =>
    newLine level ++ writeText key ++ 0x3A :: 0x20 :: prettyAt level value ++ 0x2C ::
      prettyMembers level rest

end

def pretty : Value → Bytes := prettyAt 0

end Value

end ClusterCost.Json
