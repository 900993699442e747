import ClusterCost.Text.UpperCase
import ClusterCost.Url.Address
import ClusterCost.Url.Percent
import ClusterCost.Url.Punycode

/-!
# Domain names

The host of a web address is a domain name in ASCII. Names in other scripts are folded to lower case
and written in Punycode, label by label. Characters are folded one by one: letters by their case,
wide forms to those of ASCII, and characters that do not show are left out. Sequences of a letter
and a combining mark are kept as they are.
-/

namespace ClusterCost.Domain

/-! ### Folding -/

/-- Letters that are variants of another letter with the same upper case. -/
def variants : List Nat := [
  0x00B5, 0x0131, 0x017F, 0x01C5, 0x01C8, 0x01CB, 0x01F2, 0x0345, 0x03C2, 0x03D0, 0x03D1, 0x03D5,
    0x03D6, 0x03F0, 0x03F1,
  0x03F5, 0x1C80, 0x1C81, 0x1C82, 0x1C83, 0x1C84, 0x1C85, 0x1C86, 0x1C87, 0x1C88, 0x1E9B, 0x1FBE]

/-- The code point of the lower case of a letter. -/
def lower (code : Nat) : Nat :=
  (UpperCase.runs.findSome? fun run =>
    let before := code - run.upper
    if run.upper ≤ code && run.first + before ≤ run.last && before % run.step == 0 &&
        !variants.contains (run.first + before) then
      some (run.first + before)
    else none).getD code

/-- Whether a code point lies in one of these ranges. -/
def isWithin (ranges : List (Nat × Nat)) (code : Nat) : Bool :=
  ranges.any fun range => range.1 ≤ code && code ≤ range.2

/-- Characters that do not show. -/
def hidden : List (Nat × Nat) :=
  [(0x00AD, 0x00AD), (0x034F, 0x034F), (0x200B, 0x200B), (0x2060, 0x2060), (0x2064, 0x2064),
   (0xFE00, 0xFE0F), (0xFEFF, 0xFEFF),
    (0xE0100, 0xE01EF)]

/-- Characters that stand in no domain name. -/
def refused : List (Nat × Nat) :=
  [(0x0080, 0x00A0), (0x00A8, 0x00A8), (0x00AF, 0x00AF), (0x00B4, 0x00B4), (0x00B8, 0x00B8),
   (0x1680, 0x1680), (0x2000, 0x200A),
    (0x200C, 0x200F), (0x2028, 0x202F), (0x205F, 0x205F), (0x2061, 0x2063), (0x2065, 0x206F),
    (0x2FF0, 0x3000), (0xE000, 0xF8FF),
    (0xFDD0, 0xFDEF), (0xFFF9, 0xFFFF), (0x1FFFE, 0x1FFFF), (0xE0000, 0xE00FF), (0xE01F0, 0x10FFFF)]

/-- Marks that may not start a label. -/
def marks : List (Nat × Nat) :=
  [(0x0300, 0x036F), (0x0483, 0x0489), (0x0591, 0x05BD), (0x064B, 0x065F), (0x20D0, 0x20F0)]

/-- Full stops of other scripts. -/
def stops : List Nat := [0x3002, 0xFF0E, 0xFF61]

/-- A character folded, or nothing if no domain name may hold it. -/
def fold? (c : Char) : Option (List Char) :=
  let code := c.toNat
  if stops.contains code then some ['.']
  else if isWithin hidden code then some []
  else if isWithin refused code then none
  else if 0xFF01 ≤ code && code ≤ 0xFF5E then some [Char.ofNat (lower (code - 0xFEE0))]
  else some [Char.ofNat (lower code)]

/-! ### Labels -/

/-- Whether a character of ASCII stands in no domain name. -/
def isForbidden (c : Char) : Bool :=
  c.toNat ≤ 0x20 || c.toNat == 0x7F || "%#/:<>?@[\\]^|".toList.contains c

/-- A folded label in ASCII. A label that is in Punycode already must say something
that ASCII cannot, folded. -/
def labelToAscii (label : String) : Except UrlError String :=
  let cs := label.toList
  if cs.all (·.toNat < 0x80) then
    if !label.startsWith "xn--" then .ok label
    else
      match Punycode.decode? (cs.drop 4) with
      | none => .error .invalidName
      | some decoded =>
        let isFolded := decoded.all fun c => fold? c == some [c]
        if isFolded && decoded.any (0x80 ≤ ·.toNat) && Punycode.encode decoded == cs.drop 4 then
          .ok label
        else .error .invalidName
  else if cs.head?.any fun c => isWithin marks c.toNat then .error .invalidName
  else .ok ("xn--" ++ String.ofList (Punycode.encode cs))

/-- A host name as a domain name in ASCII; escaped bytes are put back first. -/
def toAscii (host : String) : Except UrlError String := do
  let some name := Utf8.decode? (Percent.decode (Utf8.encode host)) | throw .invalidName
  let some folded := name.toList.mapM fold? | throw .invalidName
  let cs := folded.flatten
  if cs.any isForbidden then throw .invalidName
  let labels ← (cs.splitOn '.').mapM fun label => labelToAscii (String.ofList label)
  pure (String.intercalate "." labels)

end ClusterCost.Domain
