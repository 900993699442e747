import ClusterCost.Json.Reader
import ClusterCost.Proofs.Outcome
import Mathlib.Tactic.Common

/-!
# Texts that break off

A scan that does not come to the end of a value leaves an outline without an end
(`sound_scanValue`), and no reader of objects takes such an outline. A source that fails is
therefore never read with success, however much of the text it gave before: either the value is not
whole, or the failure is what follows it.
-/

namespace ClusterCost.Json

namespace Scan

/-! ### Values without an end -/

/-- A step that does not say what follows its value has not found the value's end. -/
def Step.Sound (step : Step) : Prop := step.2 = none → step.1.stop? = none

lemma sound_wordStep (e : Ending) (letters rest : Bytes) (place : Nat) (value : Nat → Outline) :
    Step.Sound (wordStep e letters rest place value) := by
  intro h
  rw [wordStep] at h ⊢
  cases hw : scanWord e letters rest (place + 1) with
  | ok after => simp [hw] at h
  | error fault => rfl

lemma sound_scanItems (e : Ending) (fuel start : Nat) (seen : List Outline) (bytes : Bytes)
    (place : Nat) : Step.Sound (scanItems e fuel start seen bytes place) := by
  induction fuel generalizing seen bytes place with
  | zero =>
    rw [scanItems]
    exact fun _ => rfl
  | succ fuel ih =>
    rw [scanItems]
    simp only
    -- Each way out goes on with the next item, comes to the closing bracket, or is a fault.
    repeat' split
    all_goals first
      | exact ih _ _ _
      | exact fun _ => rfl
      | rintro ⟨⟩

lemma sound_scanMembers (e : Ending) (fuel start : Nat) (seen : List (Key × Outline))
    (bytes : Bytes) (place : Nat) : Step.Sound (scanMembers e fuel start seen bytes place) := by
  induction fuel generalizing seen bytes place with
  | zero =>
    rw [scanMembers]
    exact fun _ => rfl
  | succ fuel ih =>
    rw [scanMembers]
    simp only
    repeat' split
    all_goals first
      | exact ih _ _ _
      | exact fun _ => rfl
      | rintro ⟨⟩

lemma sound_scanValue (e : Ending) (fuel : Nat) (bytes : Bytes) (place : Nat) :
    Step.Sound (scanValue e fuel bytes place) := by
  cases fuel with
  | zero =>
    rw [scanValue]
    exact fun _ => rfl
  | succ fuel =>
    rw [scanValue]
    repeat' split
    all_goals first
      | exact sound_wordStep _ _ _ _ _
      | exact sound_scanItems _ _ _ _ _ _
      | exact sound_scanMembers _ _ _ _ _ _
      | exact fun _ => rfl
      | rintro ⟨⟩

lemma trailingFailure_failed (message : String) (after : Cursor) :
    ∃ failure, trailingFailure (.failed message) after = some failure := by
  unfold trailingFailure
  simp only
  cases (skipBlank after.rest after.place).rest with
  | nil => exact ⟨_, rfl⟩
  | cons b rest => exact ⟨_, rfl⟩

end Scan

/-! ### Reading what has no end -/

/-- An object is read only if its closing brace was found. -/
lemma Reader.members_error {α : Type} (read : Reader α) (r : Reading) {o : Outline}
    (h : o.stop? = none) : ∃ failure, Reader.members read r o = .error failure := by
  cases o with
  | object start members closing =>
    cases closing with
    | ok stop => simp [Outline.stop?, Except.toOption] at h
    | error fault =>
      rw [Reader.members]
      cases hr : r.enter start with
      | error failure => exact ⟨failure, rfl⟩
      | ok inner =>
        rw [ok_bind]
        generalize (List.mapM _ members : Except Failure (List (String × α))) = values
        cases values with
        | error failure => exact ⟨failure, rfl⟩
        | ok values => exact ⟨fault.kept, rfl⟩
  | _ => exact ⟨_, rfl⟩

/-- What is made of a value does not change whether it is read. -/
lemma Document.read_map {α β : Type} (d : Document) (r : Reading) (read : Reader α) (f : α → β) :
    d.read r (fun r o => (read r o).map f) = (d.read r read).map f := by
  rw [Document.read, Document.read]
  cases read r d.value with
  | error failure => rfl
  | ok value =>
    cases d.trailing with
    | none => rfl
    | some failure => rfl

/-- No object is read from a source that fails. -/
theorem members_failed {α : Type} (read : Reader α) (r : Reading) (bytes : Bytes)
    (message : String) :
    ∃ failure,
      (Document.scan bytes (.failed message)).read r (Reader.members read) = .error failure := by
  have hbroken : ∀ (o : Outline) (trailing : Option Failure), o.stop? = none ∨ trailing ≠ none →
      ∃ failure, Document.read ⟨o, trailing⟩ r (Reader.members read) = .error failure := by
    intro o trailing h
    rw [Document.read]
    cases hv : Reader.members read r o with
    | error failure => exact ⟨failure, rfl⟩
    | ok values =>
      cases trailing with
      | some failure => exact ⟨failure, rfl⟩
      | none =>
        rcases h with h | h
        · obtain ⟨failure, hf⟩ := Reader.members_error read r h
          rw [hf] at hv
          cases hv
        · exact absurd rfl h
  unfold Document.scan
  simp only
  split
  · exact hbroken _ _ (.inl rfl)
  · have hsound := Scan.sound_scanValue (.failed message)
      (2 * (Scan.skipBlank bytes 0).rest.length + 2)
      (Scan.skipBlank bytes 0).rest (Scan.skipBlank bytes 0).place
    split
    · rename_i value after hs
      obtain ⟨failure, hf⟩ := Scan.trailingFailure_failed message after
      exact hbroken _ _ (.inr (by simp [hf]))
    · rename_i value hs
      rw [hs] at hsound
      exact hbroken _ _ (.inl (hsound rfl))

end ClusterCost.Json
