import ClusterCost.Proofs.Json.Cutting
import ClusterCost.Proofs.Json.Writing
import ClusterCost.Rates.Store

/-!
# The written card

The file that is written for a card has the key and the text of each field (`text_toJson`).
-/

namespace ClusterCost

open Json (Value)

/-! ### Keys -/

namespace Field

/-- The field with this key. -/
def keyed? (key : String) : Option Field := all.find? (·.key == key)

lemma keyed?_key (f : Field) : keyed? f.key = some f := by
  cases f <;> decide

lemma key_injective : Function.Injective key := by
  intro f g h
  have hf := keyed?_key f
  rw [h, keyed?_key] at hf
  exact (Option.some.inj hf).symm

end Field

/-! ### Members -/

namespace RateCard

/-- The members of the written card. -/
def members (c : RateCard) : List (String × Value) :=
  Field.all.map fun f => (f.key, .text (c.text f))

lemma numberFree_toJson (c : RateCard) : c.toJson.NumberFree := by
  have hfields : ∀ fields : List Field,
      Value.NumberFreeMembers (fields.map fun f => (f.key, .text (c.text f))) := by
    intro fields
    induction fields with
    | nil => trivial
    | cons f rest ih => exact ⟨trivial, ih⟩
  exact hfields Field.all

lemma text_toJson (c : RateCard) : Json.Text c.toJson.pretty (.object c.members) :=
  Value.text_pretty c.numberFree_toJson

lemma pretty_ne_nil (c : RateCard) : c.toJson.pretty ≠ [] := by
  simp [toJson, Value.pretty, Value.prettyAt, Field.all]

/-- A beginning of what is written for a card says nothing. -/
lemma not_says_of_prefix (c : RateCard) {left : Bytes} (h : left <+: c.toJson.pretty)
    (hne : left ≠ c.toJson.pretty) (t : Json.Tree) : ¬ Json.Says left t := by
  have hdenotes := Value.denotes_prettyAt (.object c.members) c.numberFree_toJson.exact 0
    Json.ends_nil
  rw [List.append_nil] at hdenotes
  exact hdenotes.not_says_of_prefix h hne

lemma text_toJson_compact (c : RateCard) : Json.Text c.toJson.compact (.object c.members) :=
  Value.text_compact c.numberFree_toJson

end RateCard

end ClusterCost
