import ClusterCost.Text.Utf8

/-!
# Percent-encoding and form encoding

A byte that may not stand in a part of a URL is written as a percent sign and two hexadecimal
digits. Which bytes that are depends on the part. Decoding takes every percent sign that two
digits follow for such a byte and leaves all others alone. In the names and values of a query
string letters and digits of ASCII and four marks stand for themselves, a space is a plus sign and
all other bytes are escaped.
-/

namespace ClusterCost.Percent

/-! ### Encoding -/

def digit (n : Nat) : Char := Char.ofNat (if n < 10 then 0x30 + n else 0x37 + n)

/-- A byte as a percent sign and two digits. -/
def escape (b : UInt8) : List Char := ['%', digit (b.toNat / 16), digit (b.toNat % 16)]

/-- The bytes that are escaped in a part of a URL; bytes that are not ASCII always are. -/
abbrev EscapeSet := UInt8 → Bool

/-- Whether the byte is one of these characters of ASCII. -/
def isOneOf (chars : List Char) (b : UInt8) : Bool := chars.contains (Char.ofNat b.toNat)

def controls : EscapeSet := fun b => b < 0x20 || b == 0x7F

def fragment : EscapeSet := fun b => controls b || isOneOf [' ', '"', '<', '>', '`'] b

/-- The bytes escaped in a segment of a path. -/
def path : EscapeSet := fun b => fragment b || isOneOf ['#', '?', '\x7b', '\x7d'] b

/-- The bytes escaped in a user's name and password. -/
def userInfo : EscapeSet :=
  fun b => path b || isOneOf ['/', ':', ';', '=', '@', '[', '\\', ']', '^', '|'] b

def query : EscapeSet := fun b => controls b || isOneOf [' ', '"', '#', '<', '>'] b

/-- The bytes escaped in a query of a web address. -/
def webQuery : EscapeSet := fun b => query b || isOneOf ['\''] b

def encodeByte (set : EscapeSet) (b : UInt8) : List Char :=
  if 0x80 ≤ b || set b then escape b else [Char.ofNat b.toNat]

/-- A text with the bytes of the set escaped. -/
def encode (set : EscapeSet) (s : String) : String :=
  String.ofList ((Utf8.encode s).flatMap (encodeByte set))

/-! ### Decoding -/

def digitValue? (b : UInt8) : Option UInt8 :=
  if 0x30 ≤ b && b ≤ 0x39 then some (b - 0x30)
  else if 0x41 ≤ b && b ≤ 0x46 then some (b - 0x37)
  else if 0x61 ≤ b && b ≤ 0x66 then some (b - 0x57)
  else none

def decode : Bytes → Bytes
  | 0x25 :: high :: low :: rest =>
    match digitValue? high, digitValue? low with
    | some h, some l => (16 * h + l) :: decode rest
    | _, _ => 0x25 :: decode (high :: low :: rest)
  | b :: rest => b :: decode rest
  | [] => []

end ClusterCost.Percent

namespace ClusterCost.Form

def isPlain (b : UInt8) : Bool :=
  (0x30 ≤ b && b ≤ 0x39) || (0x41 ≤ b && b ≤ 0x5A) || (0x61 ≤ b && b ≤ 0x7A) ||
  b == 0x2A || b == 0x2D || b == 0x2E || b == 0x5F

def encodeByte (b : UInt8) : List Char :=
  if isPlain b then [Char.ofNat b.toNat] else if b == 0x20 then ['+'] else Percent.escape b

/-- A text as a name or a value of a query string. -/
def encode (s : String) : String := String.ofList ((Utf8.encode s).flatMap encodeByte)

/-- The bytes that a name or a value of a query string stands for. -/
def decodeBytes (bytes : Bytes) : Bytes :=
  Percent.decode (bytes.map fun b => if b == 0x2B then 0x20 else b)

/-- The text that a name or a value of a query string stands for. -/
def decode (s : String) : String := Utf8.decodeLossy (decodeBytes (Utf8.encode s))

def pairs (query : String) : List (String × String) :=
  (query.toList.splitOn '&').filterMap fun part =>
    if part.isEmpty then none
    else
      some
        (decode (String.ofList (part.takeWhile (· != '='))),
         decode (String.ofList ((part.dropWhile (· != '=')).drop 1)))

end ClusterCost.Form
