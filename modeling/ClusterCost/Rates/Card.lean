import ClusterCost.Decimal.Numeral
import ClusterCost.Json.Record
import ClusterCost.Json.Value
import ClusterCost.Rates.Error
import ClusterCost.Rates.Field
import ClusterCost.Text.UpperCase

/-!
# Rate cards

A rate card gives each field a text, exactly as it was written; a rate becomes a number where it is
used. `RateCard.set` sets a field by name and checks the new text, and `RateCard.reader` and
`RateCard.toJson` are the two directions of the pricing file.
-/

namespace ClusterCost

/-! ### White space -/

namespace Blank

/-- Whether a character is white space in Unicode's sense. -/
def isBlank (c : Char) : Bool :=
  (0x09 ≤ c.toNat && c.toNat ≤ 0x0D) || c.toNat == 0x20 || c.toNat == 0x85 || c.toNat == 0xA0 ||
  c.toNat == 0x1680 || (0x2000 ≤ c.toNat && c.toNat ≤ 0x200A) || c.toNat == 0x2028 ||
  c.toNat == 0x2029 || c.toNat == 0x202F || c.toNat == 0x205F || c.toNat == 0x3000

/-- The text without the white space at its ends. -/
def trim (s : String) : String :=
  String.ofList ((s.toList.dropWhile isBlank).reverse.dropWhile isBlank).reverse

end Blank

/-! ### Cards -/

/-- A text for each field. -/
@[ext] structure RateCard where
  text : Field → String

namespace RateCard

/-- The card of a service that has no pricing file. -/
def default : RateCard := ⟨Field.initial⟩

instance : Inhabited RateCard := ⟨default⟩

theorem ext_iff_all {c d : RateCard} : c = d ↔ ∀ f ∈ Field.all, c.text f = d.text f :=
  ⟨fun h _ _ => h ▸ rfl, fun h => RateCard.ext (funext fun f => h f f.mem_all)⟩

instance : DecidableEq RateCard := fun _ _ => decidable_of_iff _ ext_iff_all.symm

def put (c : RateCard) (f : Field) (value : String) : RateCard :=
  ⟨fun g => if g = f then value else c.text g⟩

@[simp] theorem text_put_self (c : RateCard) (f : Field) (value : String) :
    (c.put f value).text f = value := by
  simp [put]

theorem text_put (c : RateCard) (f g : Field) (value : String) :
    (c.put f value).text g = if g = f then value else c.text g := rfl

theorem put_comm (c : RateCard) {f g : Field} (h : f ≠ g) (v w : String) :
    (c.put f v).put g w = (c.put g w).put f v := by
  ext k
  simp only [text_put]
  by_cases hf : k = f
  · subst hf; simp [h]
  · simp [hf]

@[simp] theorem put_put (c : RateCard) (f : Field) (v w : String) :
    (c.put f v).put f w = c.put f w := by
  ext k
  simp only [text_put]
  by_cases hf : k = f <;> simp [hf]

/-! ### Setting a field by name -/

def fieldNamed? (name : String) : Option Field := Field.all.find? (·.name == name)

/-- The number that a rate's text denotes, white space around it aside. -/
def rateOf (value : String) : Except NumeralError Float := Numeral.readFloat (Blank.trim value)

/-- Check a text for a field of this kind. -/
def check (kind : FieldKind) (value : String) : Except ValueError Unit :=
  match kind with
  | .text => .ok ()
  | .flag => if value == "true" || value == "false" then .ok () else .error .notFlag
  | .rate =>
    if value == "" then .ok ()
    else
      match rateOf value with
      | .ok rate => if rate.isFinite && rate ≥ 0 then .ok () else .error .outOfRange
      | .error e => .error (.numeral e)

/-- Set the field of this name, the case of its first letter aside. -/
def set (c : RateCard) (name value : String) : Except PricingError RateCard :=
  let name := UpperCase.capitalize name
  match fieldNamed? name with
  | none => .error (.unknownField name)
  | some f =>
    match check f.kind value with
    | .ok () => .ok (c.put f value)
    | .error e => .error (.invalidValue f.name value e)

/-- Set the field of this name in place: what comes of it, and the card afterwards, which is the old
one if the text is refused. -/
def setInPlace (c : RateCard) (name value : String) : Except PricingError Unit × RateCard :=
  match c.set name value with
  | .ok d => (.ok (), d)
  | .error e => (.error e, c)

/-- Set several fields, one after another, until one is refused. -/
def setAll (c : RateCard) (values : List (String × String)) : Except PricingError RateCard :=
  values.foldlM (fun c entry => c.set entry.1 entry.2) c

/-! ### The pricing file -/

def toJson (c : RateCard) : Json.Value := .object (Field.all.map fun f => (f.key, .text (c.text f)))

/-- The JSON form of a card: an object of its fields, any of which may be left out. -/
def record : Json.Record RateCard where
  name := "struct CustomPricing"
  blank := default
  slots := Field.all.map fun f => .of f.key .defaulted Json.Reader.text fun value c => c.put f value

/-- Read a card; fields that are left out have their default. -/
def reader : Json.Reader RateCard := record.read

end RateCard

end ClusterCost
