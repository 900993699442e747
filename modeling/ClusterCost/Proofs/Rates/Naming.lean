import ClusterCost.Proofs.Rates.Card
import ClusterCost.Proofs.Rates.Entries
import ClusterCost.Proofs.Rates.Validity
import ClusterCost.Proofs.Text.UpperCase

/-!
# Setting a field by its name

A text names a field if it is the field's name, but for its first character, which may be any that
stands for the capital there (`RateCard.addresses_iff`). No text names two fields. What a field is
set to is put into this field and nowhere else, and a text that is refused is put nowhere
(`RateCard.setInPlace_by_name`).
-/

namespace ClusterCost

open UpperCase (StandsFor)

/-! ### Names -/

namespace Field

/-- The text is the name of the field, but for a first character that stands for the
capital there. -/
def Spelled (f : Field) (name : String) : Prop :=
  ∃ c l tail, name.toList = c :: tail ∧ f.name.toList = l :: tail ∧ StandsFor c l

variable {f : Field} {name : String}

/-- The name of each field starts with a capital. -/
lemma exists_name_eq (f : Field) : ∃ l tail, f.name.toList = l :: tail ∧ l.isUpper = true := by
  cases f <;> exact ⟨_, _, rfl, rfl⟩

/-- No name starts with an upper case of several characters. -/
lemma not_expands_name (f : Field) :
    ∀ e ∈ UpperCase.expansions, ¬ e.2.map Char.ofNat <+: f.name.toList := by
  cases f <;> exact List.all_iff_forall_prop.mp (by decide)

lemma fieldNamed?_name (f : Field) : RateCard.fieldNamed? f.name = some f := by
  cases f <;> rfl

lemma capitalize_eq_name_iff : UpperCase.capitalize name = f.name ↔ f.Spelled name := by
  obtain ⟨l, tail, hname, hl⟩ := f.exists_name_eq
  rw [UpperCase.capitalize_eq_iff hname hl f.not_expands_name, Spelled]
  constructor
  · rintro ⟨c, hc, hstands⟩
    exact ⟨c, l, tail, hc, hname, hstands⟩
  · rintro ⟨c, l', tail', hc, hname', hstands⟩
    obtain ⟨rfl, rfl⟩ := List.cons.inj (hname.symm.trans hname')
    exact ⟨c, hc, hstands⟩

end Field

namespace RateCard

variable {f : Field} {name : String}

lemma fieldNamed?_eq_some_iff : fieldNamed? name = some f ↔ f.name = name := by
  constructor
  · intro h
    simpa using List.find?_some h
  · rintro rfl
    exact f.fieldNamed?_name

lemma addresses_iff : Addresses name f ↔ f.Spelled name := by
  rw [Addresses, fieldNamed?_eq_some_iff, eq_comm, Field.capitalize_eq_name_iff]

end RateCard

/-! ### Values -/

/-- A text is valid for a field of this kind. -/
def FieldKind.Accepts : FieldKind → String → Prop
  | .text, _ => True
  | .rate, value => RateCard.RateText value
  | .flag, value => value = "true" ∨ value = "false"

namespace RateCard

variable {f : Field} {name value : String} {e : ValueError}

lemma check_eq_ok_iff {kind : FieldKind} : check kind value = .ok () ↔ kind.Accepts value := by
  cases kind with
  | text => exact ⟨fun _ => trivial, fun _ => rfl⟩
  | rate => exact check_rate_iff
  | flag => exact check_flag_iff

/-! ### Setting a field -/

/-- The second card is the first with this text in this field: other fields are as before, and so is
what else is written for the card. -/
structure DiffersIn (c : RateCard) (f : Field) (value : String) (d : RateCard) : Prop where
  text_eq : d.text f = value
  others : ∀ g, g ≠ f → d.text g = c.text g
  members : d.members = c.members.map fun m => if m.1 = f.key then (m.1, .text value) else m

lemma differsIn_put (c : RateCard) (f : Field) (value : String) :
    DiffersIn c f value (c.put f value) where
  text_eq := c.text_put_self f value
  others := by
    intro g hg
    rw [text_put, if_neg hg]
  members := by
    rw [members, members, List.map_map]
    refine List.map_congr_left fun g _ => ?_
    by_cases hg : g = f
    · simp [hg]
    · simp [hg, text_put, Field.key_injective.ne hg]

lemma setInPlace_accepted (hname : f.Spelled name) (hvalue : f.kind.Accepts value) (c : RateCard) :
    c.setInPlace name value = (.ok (), c.put f value) := by
  have hfield : fieldNamed? (UpperCase.capitalize name) = some f := addresses_iff.mpr hname
  simp only [setInPlace, set, hfield, check_eq_ok_iff.mpr hvalue]

lemma setInPlace_invalid (hname : f.Spelled name) (hcheck : check f.kind value = .error e)
    (c : RateCard) : c.setInPlace name value = (.error (.invalidValue f.name value e), c) := by
  have hfield : fieldNamed? (UpperCase.capitalize name) = some f := addresses_iff.mpr hname
  simp only [setInPlace, set, hfield, hcheck]

lemma setInPlace_unknown (hname : ∀ f : Field, ¬ f.Spelled name) (c : RateCard) :
    c.setInPlace name value = (.error (.unknownField (UpperCase.capitalize name)), c) := by
  have hfield : fieldNamed? (UpperCase.capitalize name) = none :=
    Option.eq_none_iff_forall_ne_some.mpr fun f hf => hname f (addresses_iff.mp hf)
  simp only [setInPlace, set, hfield]

/-- Setting a field puts a text into it, whatever the card, or changes no card. -/
lemma setInPlace_cases (name value : String) :
    (∃ f : Field, f.Spelled name ∧ f.kind.Accepts value ∧
       ∀ c : RateCard, c.setInPlace name value = (.ok (), c.put f value)) ∨
      ∃ e, ∀ c : RateCard, c.setInPlace name value = (.error e, c) := by
  by_cases hname : ∃ f : Field, f.Spelled name
  · obtain ⟨f, hf⟩ := hname
    cases hcheck : check f.kind value with
    | ok done =>
      have hvalue := check_eq_ok_iff.mp hcheck
      exact .inl ⟨f, hf, hvalue, setInPlace_accepted hf hvalue⟩
    | error e => exact .inr ⟨_, setInPlace_invalid hf hcheck⟩
  · exact .inr ⟨_, setInPlace_unknown (not_exists.mp hname)⟩

/-- Whether a text is accepted does not depend on the card. -/
lemma setInPlace_fst (c d : RateCard) (name value : String) :
    (c.setInPlace name value).1 = (d.setInPlace name value).1 := by
  obtain ⟨f, -, -, hset⟩ | ⟨e, hset⟩ := setInPlace_cases name value
  · rw [hset, hset]
  · rw [hset, hset]

lemma setInPlace_comm {name' value' : String} (h : ∀ f : Field, f.Spelled name → ¬ f.Spelled name')
    (c : RateCard) :
    ((c.setInPlace name value).2.setInPlace name' value').2 =
      ((c.setInPlace name' value').2.setInPlace name value).2 := by
  obtain ⟨f, hname, -, hset⟩ | ⟨e, hset⟩ := setInPlace_cases name value
  · obtain ⟨g, hname', -, hset'⟩ | ⟨e', hset'⟩ := setInPlace_cases name' value'
    · have hne : f ≠ g := by
        rintro rfl
        exact h f hname hname'
      simp only [hset, hset', c.put_comm hne]
    · simp only [hset, hset']
  · simp only [hset]

lemma setInPlace_again {name' value' : String} (hname : f.Spelled name) (hname' : f.Spelled name')
    (hvalue' : f.kind.Accepts value') (c : RateCard) :
    (c.setInPlace name value).2.setInPlace name' value' = c.setInPlace name' value' := by
  rw [setInPlace_accepted hname' hvalue', setInPlace_accepted hname' hvalue']
  obtain ⟨g, hg, -, hset⟩ | ⟨e, hset⟩ := setInPlace_cases name value
  · obtain rfl := (addresses_iff.mpr hname).unique (addresses_iff.mpr hg)
    rw [hset, put_put]
  · rw [hset]

/-- A name is that of a field if and only if it has the field's spelling, where the first character
may be any whose upper case is the letter there, and it is of one field only. A valid text is put
into this field, whatever its card, and nothing else changes; otherwise nothing changes at all, and
the error gives the name with its first character in upper case, or the field. So texts may be given
to different fields in any order, and a field that is set twice has the last text. -/
theorem setInPlace_by_name (c : RateCard) (name value : String) :
    (∀ f, Addresses name f ↔ f.Spelled name) ∧
    (∀ (f : Field) ch l tail, f.name.toList = l :: tail →
       (UpperCase.ofChar ch = [l] ↔ StandsFor ch l)) ∧
    (∀ f g : Field, f.Spelled name → g.Spelled name → f = g) ∧
    (∀ f : Field, f.Spelled name → f.kind.Accepts value →
      ∃ d, c.setInPlace name value = (.ok (), d) ∧ DiffersIn c f value d) ∧
    (∀ f : Field, f.Spelled name → ¬ f.kind.Accepts value →
      ∃ e, check f.kind value = .error e ∧
        c.setInPlace name value = (.error (.invalidValue f.name value e), c)) ∧
    ((∀ f : Field, ¬ f.Spelled name) →
       c.setInPlace name value = (.error (.unknownField (UpperCase.capitalize name)), c)) ∧
    (∀ name' value' : String, (∀ f : Field, f.Spelled name → ¬ f.Spelled name') →
      ((c.setInPlace name value).2.setInPlace name' value').1 = (c.setInPlace name' value').1 ∧
      ((c.setInPlace name value).2.setInPlace name' value').2 =
        ((c.setInPlace name' value').2.setInPlace name value).2) ∧
    ∀ (f : Field) (name' value' : String), f.Spelled name → f.Spelled name' →
      f.kind.Accepts value' →
      (c.setInPlace name value).2.setInPlace name' value' = c.setInPlace name' value' := by
  refine ⟨fun f => addresses_iff, ?_, ?_, ?_, ?_, ?_, ?_, ?_⟩
  · intro f ch l tail hname
    obtain ⟨l', tail', hname', hl⟩ := f.exists_name_eq
    obtain ⟨rfl, rfl⟩ := List.cons.inj (hname.symm.trans hname')
    exact UpperCase.ofChar_eq_singleton_iff hl
  · intro f g hf hg
    exact (addresses_iff.mpr hf).unique (addresses_iff.mpr hg)
  · intro f hname hvalue
    exact ⟨c.put f value, setInPlace_accepted hname hvalue c, c.differsIn_put f value⟩
  · intro f hname hvalue
    cases hcheck : check f.kind value with
    | ok done => exact absurd (check_eq_ok_iff.mp hcheck) hvalue
    | error e => exact ⟨e, rfl, setInPlace_invalid hname hcheck c⟩
  · intro hname
    exact setInPlace_unknown hname c
  · intro name' value' h
    exact ⟨setInPlace_fst _ _ name' value', setInPlace_comm h c⟩
  · intro f name' value' hname hname' hvalue'
    exact setInPlace_again hname hname' hvalue' c

/-- A name with the long s is set, then set again with a capital, and one with the dotless i is
refused for its text; a sharp s stands for two letters, which is the start of no name. -/
theorem setInPlace_by_name_foreign :
    (∃ d, default.setInPlace "ſpotCPU" "0.5" = (.ok (), d) ∧ DiffersIn default .spotCpu "0.5" d) ∧
    (default.setInPlace "ſpotCPU" "0.5").2.setInPlace "SpotCPU" "" =
      default.setInPlace "SpotCPU" "" ∧
    (∃ e, check .rate "-1" = .error e ∧
      default.setInPlace "ınternetNetworkEgress" "-1" =
        (.error (.invalidValue "InternetNetworkEgress" "-1" e), default)) ∧
    default.setInPlace "ßpotCPU" "0.5" = (.error (.unknownField "SSpotCPU"), default) ∧
    ((default.setInPlace "ßpotCPU" "0.5").2.setInPlace "ſpotCPU" "0.5").2 =
      ((default.setInPlace "ſpotCPU" "0.5").2.setInPlace "ßpotCPU" "0.5").2 := by
  have hlong : Field.spotCpu.Spelled "ſpotCPU" := ⟨_, _, _, rfl, rfl, .inr (.inr (.inl ⟨rfl, rfl⟩))⟩
  have hcapital : Field.spotCpu.Spelled "SpotCPU" := ⟨_, _, _, rfl, rfl, .inl rfl⟩
  have hdotless : Field.internetEgress.Spelled "ınternetNetworkEgress" :=
    ⟨_, _, _, rfl, rfl, .inr (.inr (.inr ⟨rfl, rfl⟩))⟩
  have hsharp : ∀ f : Field, ¬ f.Spelled "ßpotCPU" := by
    intro f hf
    have hnone : fieldNamed? (UpperCase.capitalize "ßpotCPU") = none := by decide
    cases hnone.symm.trans (addresses_iff.mpr hf)
  have hhalf : FieldKind.rate.Accepts "0.5" := check_eq_ok_iff.mp (by decide +kernel)
  have hnegative : ¬ FieldKind.rate.Accepts "-1" := mt check_eq_ok_iff.mpr (by decide +kernel)
  obtain ⟨-, -, -, hset, -, -, -, hagain⟩ := setInPlace_by_name default "ſpotCPU" "0.5"
  obtain ⟨-, -, -, -, hinvalid, -, -, -⟩ := setInPlace_by_name default "ınternetNetworkEgress" "-1"
  obtain ⟨-, -, -, -, -, hunknown, hcomm, -⟩ := setInPlace_by_name default "ßpotCPU" "0.5"
  refine ⟨hset .spotCpu hlong hhalf, ?_, hinvalid .internetEgress hdotless hnegative,
    hunknown hsharp, ?_⟩
  · exact hagain .spotCpu "SpotCPU" "" hlong hcapital (.inl rfl)
  · exact (hcomm "ſpotCPU" "0.5" fun f hf => absurd hf (hsharp f)).2

end RateCard

end ClusterCost
