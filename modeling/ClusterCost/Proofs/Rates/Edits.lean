import ClusterCost.Proofs.Outcome
import ClusterCost.Rates.Provider
import Mathlib.Tactic.Common

/-!
# Why an edit is refused

Setting a field of a card is refused if there is no field of the name, or if the text fails the
check of the field (`RateCard.set_outcome`). An update that comes as a map or as a body sets fields
one after another, so it is refused for these reasons, or because the body holds no update, or a
value that is no text. It is never refused because of a file, for it touches none.
-/

namespace ClusterCost

/-- The errors with which an edit of a card can be refused. -/
inductive PricingError.RefusesEdit : PricingError → Prop
  | decode (refusal : Json.Refusal) : RefusesEdit (.decode refusal)
  | nonText (name : String) : RefusesEdit (.nonText name)
  | unknownField (name : String) : RefusesEdit (.unknownField name)
  | invalidValue (field value : String) (error : ValueError) :
      RefusesEdit (.invalidValue field value error)

/-- Steps that are refused only for some reasons are so together. -/
lemma foldlM_error {α β ε : Type} {P : ε → Prop} {f : β → α → Except ε β}
    (hf : ∀ b a e, f b a = .error e → P e) (as : List α) {b : β} {e : ε}
    (h : as.foldlM f b = .error e) : P e := by
  induction as generalizing b with
  | nil => cases h
  | cons a rest ih =>
    rw [List.foldlM_cons] at h
    cases hs : f b a with
    | error e' =>
      simp only [hs, error_bind, Except.error.injEq] at h
      exact h ▸ hf b a e' hs
    | ok b' =>
      simp only [hs, ok_bind] at h
      exact ih h

namespace RateCard

/-! ### Setting one field -/

/-- What setting the field of a name to a text can lead to. -/
inductive SetOutcome (c : RateCard) (name value : String) : Except PricingError RateCard → Prop
  | unknown (h : fieldNamed? (UpperCase.capitalize name) = none) :
      SetOutcome c name value (.error (.unknownField (UpperCase.capitalize name)))
  | invalid (f : Field) (error : ValueError) (h : fieldNamed? (UpperCase.capitalize name) = some f)
      (hcheck : check f.kind value = .error error) :
      SetOutcome c name value (.error (.invalidValue f.name value error))
  | set (f : Field) (h : fieldNamed? (UpperCase.capitalize name) = some f)
      (hcheck : check f.kind value = .ok ()) :
      SetOutcome c name value (.ok (c.put f value))

lemma set_outcome (c : RateCard) (name value : String) :
    SetOutcome c name value (c.set name value) := by
  rw [set]
  cases hfield : fieldNamed? (UpperCase.capitalize name) with
  | none => exact .unknown hfield
  | some f =>
    cases hcheck : check f.kind value with
    | ok done => simpa only [hcheck] using .set f hfield hcheck
    | error error => simpa only [hcheck] using .invalid f error hfield hcheck

/-! ### Edits -/

variable {c : RateCard} {e : PricingError}

lemma refusesEdit_set {name value : String} (h : c.set name value = .error e) : e.RefusesEdit := by
  have hout := c.set_outcome name value
  rw [h] at hout
  cases hout with
  | unknown hfield => exact .unknownField _
  | invalid f error hfield hcheck => exact .invalidValue _ _ _

lemma refusesEdit_setAll {values : List (String × String)} (h : c.setAll values = .error e) :
    e.RefusesEdit :=
  foldlM_error (fun _ _ _ hset => refusesEdit_set hset) values h

end RateCard

variable {c : RateCard} {e : PricingError}

lemma CardUpdate.refusesEdit_apply {update : CardUpdate} (h : update.apply c = .error e) :
    e.RefusesEdit := by
  refine foldlM_error ?_ update.entries h
  rintro card ⟨name, value⟩ error hentry
  cases value with
  | none =>
    cases hentry
    exact .nonText name
  | some value => exact RateCard.refusesEdit_set hentry

lemma Provider.refusesEdit_editOfBody {body : CardUpdate.Body}
    (h : Provider.editOfBody body c = .error e) : e.RefusesEdit := by
  rw [Provider.editOfBody] at h
  cases hbody : CardUpdate.ofBody body with
  | ok update =>
    simp only [hbody] at h
    exact CardUpdate.refusesEdit_apply h
  | error refusal =>
    simp only [hbody, Except.error.injEq] at h
    subst h
    exact .decode refusal

end ClusterCost
