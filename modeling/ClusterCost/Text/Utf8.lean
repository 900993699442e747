/-!
# UTF-8

Texts leave and enter the program as bytes. `Utf8.encode` writes a text, `Utf8.decode?` reads bytes
that are well formed, and `Utf8.decodeLossy` reads any bytes, putting one replacement character
for each longest prefix of a character that breaks off.
-/

namespace ClusterCost

/-- A run of bytes: a file's content, a request body, an answer of the backend. -/
abbrev Bytes := List UInt8

namespace Utf8

def encode (s : String) : Bytes := s.toUTF8.data.toList

/-- The text that these bytes are the UTF-8 form of, if there is one. -/
def decode? (bytes : Bytes) : Option String := String.fromUTF8? ⟨bytes.toArray⟩

/-- The byte that starts this text, if any, less all but its low bits. -/
def payload (mask : UInt8) (b : UInt8) : Nat := (b &&& mask).toNat

/-- A byte that may continue a character. -/
def isContinuation (b : UInt8) : Bool := 0x80 ≤ b && b ≤ 0xBF

/-- What the first bytes of a text are. -/
inductive Lead where
  /-- A whole character and its length. -/
  | char (c : Char) (length : Nat)
  /-- The longest prefix of a character, or a byte that starts none. -/
  | broken (length : Nat)

/-- The lowest and highest second byte after this first byte, which exclude overlong forms,
surrogates and code points past the last. -/
def secondByteBounds (lead : UInt8) : UInt8 × UInt8 :=
  if lead == 0xE0 then (0xA0, 0xBF)
  else if lead == 0xED then (0x80, 0x9F)
  else if lead == 0xF0 then (0x90, 0xBF)
  else if lead == 0xF4 then (0x80, 0x8F)
  else (0x80, 0xBF)

/-- How many bytes a character with this first byte has; zero for a byte that starts none. -/
def lengthOf (lead : UInt8) : Nat :=
  if lead < 0x80 then 1
  else if 0xC2 ≤ lead && lead ≤ 0xDF then 2
  else if 0xE0 ≤ lead && lead ≤ 0xEF then 3
  else if 0xF0 ≤ lead && lead ≤ 0xF4 then 4
  else 0

/-- Read the continuation bytes after the second one. -/
def continueChar (code : Nat) (length : Nat) : (wanted : Nat) → Bytes → Lead
  | 0, _ => .char (Char.ofNat code) length
  | wanted + 1, b :: rest =>
    if isContinuation b then continueChar (code * 64 + payload 0x3F b) (length + 1) wanted rest
    else .broken length
  | _ + 1, [] => .broken length

/-- Read the character at the front of `lead :: rest`. -/
def lead (lead : UInt8) (rest : Bytes) : Lead :=
  match lengthOf lead with
  | 0 => .broken 1
  | 1 => .char (Char.ofNat lead.toNat) 1
  | length + 2 =>
    match rest with
    | [] => .broken 1
    | second :: rest =>
      let (low, high) := secondByteBounds lead
      if low ≤ second && second ≤ high then
        let top := match length with
          | 0 => payload 0x1F lead
          | 1 => payload 0x0F lead
          | _ => payload 0x07 lead
        continueChar (top * 64 + payload 0x3F second) 2 length rest
      else .broken 1

/-- Read any bytes; `skip` bytes of the current character are still to be passed over. -/
def decodeLossyFrom (seen : List Char) (skip : Nat) : Bytes → List Char
  | [] => seen.reverse
  | b :: rest =>
    match skip with
    | skip + 1 => decodeLossyFrom seen skip rest
    | 0 =>
      match lead b rest with
      | .char c length => decodeLossyFrom (c :: seen) (length - 1) rest
      | .broken length => decodeLossyFrom ('\uFFFD' :: seen) (length - 1) rest

/-- Read any bytes as text, with a replacement character for each broken character. -/
def decodeLossy (bytes : Bytes) : String := String.ofList (decodeLossyFrom [] 0 bytes)

end Utf8

end ClusterCost
