import ClusterCost.Text.Printable

/-!
# Internet addresses

Addresses of 32 bits, written as up to four numbers between points, and addresses of 128 bits,
written as eight pieces between colons of which one run of zeros may be left out. A text with an
address that is malformed is no URL, for one of the reasons of `UrlError`.
-/

namespace ClusterCost

/-- The reasons to refuse a URL. -/
inductive UrlError where
  | noScheme
  | emptyHost
  | invalidPort
  | invalidAddress4
  | invalidAddress6
  /-- The host of a web address is no domain name. -/
  | invalidName
  /-- The host holds a character that no host may hold. -/
  | invalidCharacter
  /-- A path was to be appended to a URL without a path of segments. -/
  | noSegments
  deriving DecidableEq, Repr

def UrlError.message : UrlError → String
  | noScheme => "relative URL without a base"
  | emptyHost => "empty host"
  | invalidPort => "invalid port number"
  | invalidAddress4 => "invalid IPv4 address"
  | invalidAddress6 => "invalid IPv6 address"
  | invalidName => "invalid international domain name"
  | invalidCharacter => "invalid domain character"
  | noSegments => "relative URL with a cannot-be-a-base base"

namespace Address4

/-- The value of a digit, if the character is a digit of this base. -/
def digitValue? (base : Nat) (c : Char) : Option Nat :=
  let value :=
    if '0' ≤ c && c ≤ '9' then c.toNat - 0x30
    else if 'a' ≤ c && c ≤ 'z' then c.toNat - 0x57
    else if 'A' ≤ c && c ≤ 'Z' then c.toNat - 0x37
    else base
  if value < base then some value else none

def readDigits? (base : Nat) (cs : List Char) : Option Nat :=
  cs.foldlM (fun n c => (digitValue? base c).map (n * base + ·)) 0

/-- A number: hexadecimal after `0x`, octal after a leading zero, decimal otherwise. -/
def readNumber? : List Char → Option Nat
  | [] => none
  | '0' :: 'x' :: rest | '0' :: 'X' :: rest => readDigits? 16 rest
  | '0' :: c :: rest => readDigits? 8 (c :: rest)
  | cs => readDigits? 10 cs

/-- The parts of a host name between its points, without an empty last one. -/
def parts (host : String) : List String :=
  let parts := (host.toList.splitOn '.').map String.ofList
  if parts.getLast? == some "" then parts.dropLast else parts

/-- Whether the last part of a host name is a number, so that the host must be an address. -/
def endsInNumber (host : String) : Bool :=
  match (parts host).getLast? with
  | none => false
  | some last =>
    let cs := last.toList
    (!cs.isEmpty && cs.all fun c => '0' ≤ c && c ≤ '9') || (readNumber? cs).isSome

/-- The address of so many leading bytes and a last number that fills the rest. -/
def assemble? : List Nat → (last : Nat) → Option Nat
  | leading, last =>
    let room := Nat.pow 2 (8 * (4 - leading.length))
    if leading.length ≤ 3 && leading.all (· ≤ 255) && last < room then
      some (leading.foldl (fun n byte => n * 256 + byte) 0 * room + last)
    else none

def read (host : String) : Except UrlError Nat :=
  match (parts host).mapM fun part => readNumber? part.toList with
  | none => .error .invalidAddress4
  | some numbers =>
    match numbers.getLast? with
    | none => .error .invalidAddress4
    | some last => (assemble? numbers.dropLast last).elim (.error .invalidAddress4) .ok

def write (n : Nat) : String :=
  String.intercalate "."
    ([n / Nat.pow 2 24, n / Nat.pow 2 16, n / Nat.pow 2 8, n].map fun byte => toString (byte % 256))

end Address4

namespace Address6

/-- A piece: one to four hexadecimal digits. -/
def readPiece? (s : String) : Option Nat :=
  if s == "" || 4 < s.length then none else Address4.readDigits? 16 s.toList

/-- A byte in decimal without leading zeros. -/
def readByte? (s : String) : Option Nat := do
  let n ← if s == "" then none else Address4.readDigits? 10 s.toList
  if 255 < n || (s.length != 1 && s.startsWith "0") then none else some n

/-- The two pieces of a last part that is written as four bytes. -/
def readTail? (s : String) : Option (List Nat) :=
  match (s.splitOn ".").mapM readByte? with
  | some [a, b, c, d] => some [a * 256 + b, c * 256 + d]
  | _ => none

/-- The pieces between single colons; the last part may be four bytes. -/
def readPieces? : List String → Option (List Nat)
  | [] => some []
  | [last] => ((readPiece? last).map fun n => [n]).orElse fun _ => readTail? last
  | part :: rest => do
    let piece ← readPiece? part
    let pieces ← readPieces? rest
    pure (piece :: pieces)

/-- The pieces of one side of a double colon. -/
def readSide? (s : String) : Option (List Nat) :=
  if s == "" then some [] else readPieces? (s.splitOn ":")

/-- Read an address. A double colon stands for at least one piece. -/
def read (s : String) : Except UrlError (List Nat) :=
  let pieces? : Option (List Nat) := do
    match s.splitOn "::" with
    | [all] =>
      let pieces ← readSide? all
      if pieces.length == 8 then pure pieces else none
    | [front, back] =>
      -- Only the end of the whole address may be written as bytes.
      let before ← if front.contains '.' then none else readSide? front
      let after ← readSide? back
      let known := before.length + after.length
      if known ≤ 7 then pure (before ++ List.replicate (8 - known) 0 ++ after) else none
    | _ => none
  pieces?.elim (.error .invalidAddress6) .ok

/-- The length of the run of zeros at the front. -/
def zeros (pieces : List Nat) : Nat := (pieces.takeWhile (· == 0)).length

/-- Where the longest run of zeros starts, and its length; of equal runs the first. -/
def longestZeros (pieces : List Nat) : Nat × Nat :=
  (List.range pieces.length).foldl
    (fun best start =>
      let length := zeros (pieces.drop start)
      if best.2 < length then (start, length) else best) (0, 0)

/-- An address in brackets, its longest run of at least two zeros left out. -/
def write (pieces : List Nat) : String :=
  let join (pieces : List Nat) : String := String.intercalate ":" (pieces.map Quoted.hexDigits)
  let (start, length) := longestZeros pieces
  if length < 2 then "[" ++ join pieces ++ "]"
  else "[" ++ join (pieces.take start) ++ "::" ++ join (pieces.drop (start + length)) ++ "]"

end Address6

end ClusterCost
