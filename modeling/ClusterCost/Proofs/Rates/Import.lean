import ClusterCost.Proofs.Rates.Bodies
import ClusterCost.Proofs.Rates.Card

/-!
# Importing a card

What is written for a card is also an update, one that sets every field: the key of a field in the
pricing file is also a name of the field (`RateCard.addresses_key`). So it turns any card into that
card, if each of its texts would be accepted (`Provider.editOfBody_written`).
-/

namespace ClusterCost

open Json (Tree)

namespace RateCard

/-- The key of a field in the pricing file is also its name, the case of the first letter aside. -/
lemma addresses_key (f : Field) : Addresses f.key f := by
  cases f <;> rfl

/-- Each rate is empty or would be accepted as a rate, and the flag is one of its two words. -/
structure Acceptable (c : RateCard) : Prop where
  rate : ∀ f : Field, f.kind = .rate → c.text f = "" ∨ check .rate (c.text f) = .ok ()
  flag : ∀ f : Field, f.kind = .flag → c.text f = "true" ∨ c.text f = "false"

section Acceptable

variable {c : RateCard}

lemma Acceptable.check (h : c.Acceptable) (f : Field) :
    RateCard.check f.kind (c.text f) = .ok () := by
  cases hkind : f.kind with
  | text => rfl
  | rate =>
    rcases h.rate f hkind with hempty | hcheck
    · rw [hempty]
      rfl
    · exact hcheck
  | flag => rcases h.flag f hkind with hword | hword <;> rw [hword] <;> rfl

/-- The keys of all fields, each with the text of its field. -/
def keyed (c : RateCard) : List (String × Tree) :=
  Field.all.map fun f => (f.key, .text (some (c.text f)))

lemma lastText_keyed {name : String} {given : Option String} :
    CardUpdate.lastText c.keyed name = some given ↔
      ∃ f : Field, f.key = name ∧ given = some (c.text f) := by
  have hnodup : (c.keyed.map (·.1)).Nodup := by
    rw [keyed, List.map_map]
    exact Field.nodup_all.map Field.key_injective
  rw [CardUpdate.lastText, Option.map_eq_some_iff]
  constructor
  · rintro ⟨t, hlast, rfl⟩
    obtain ⟨f, -, heq⟩ := List.mem_map.mp ((lastValue_eq_some_iff hnodup).mp hlast)
    cases heq
    exact ⟨f, rfl, rfl⟩
  · rintro ⟨f, rfl, rfl⟩
    exact ⟨_, (lastValue_eq_some_iff hnodup).mpr (List.mem_map.mpr ⟨f, f.mem_all, rfl⟩), rfl⟩

/-- The texts of all fields, each under its key, make any card this one. -/
lemma Acceptable.means (h : c.Acceptable) (d : RateCard) :
    CardUpdate.Means (CardUpdate.lastText c.keyed) d (.ok c) := by
  refine .accepted c (fun name given hlast => ?_) fun f => ?_
  · obtain ⟨f, rfl, rfl⟩ := lastText_keyed.mp hlast
    exact ⟨f, c.text f, rfl, addresses_key f, h.check f⟩
  · refine .given f.key (c.text f) (lastText_keyed.mpr ⟨f, rfl, rfl⟩) (addresses_key f)
      fun other hother hname => ?_
    obtain ⟨given, hgiven⟩ := Option.ne_none_iff_exists'.mp hother
    obtain ⟨g, rfl, -⟩ := lastText_keyed.mp hgiven
    rw [hname.unique (addresses_key g)]
    exact Utf8.encode_le_encode_iff.mpr le_rfl

end Acceptable

end RateCard

namespace Provider

/-- What is written for an acceptable card turns any card into it. -/
theorem editOfBody_written {c : RateCard} (h : c.Acceptable) {body : CardUpdate.Body}
    (hending : body.ending = .finished) (htext : Json.Text body.bytes (.object c.members))
    (d : RateCard) : editOfBody body d = .ok c := by
  have hholds : body.Holds c.keyed := by
    refine ⟨hending, ?_, fun m hm => ?_⟩
    · rw [Json.Text, Json.Value.tree, Json.Value.memberTrees_eq_map, RateCard.members,
        List.map_map] at htext
      rwa [RateCard.keyed, List.map_map]
    · obtain ⟨f, -, rfl⟩ := List.mem_map.mp hm
      exact .text _ _
  exact (means_editOfBody hholds d).unique (h.means d)

end Provider

end ClusterCost
