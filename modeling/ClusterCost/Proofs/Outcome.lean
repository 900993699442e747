import Mathlib.Data.List.Forall2
import Mathlib.Data.List.Perm.Basic
import Mathlib.Tactic.Common

/-!
# Steps that may fail

When several steps that may fail succeed: one after another (`bind_eq_ok_iff`), and the same step
for each member of a list (`mapM_eq_ok_iff`).
-/

namespace ClusterCost

variable {ε α β : Type}

@[simp] lemma pure_eq_ok (a : α) : (pure a : Except ε α) = .ok a := rfl

@[simp] lemma throw_eq_error (e : ε) : (throw e : Except ε α) = .error e := rfl

@[simp] lemma ok_bind (a : α) (f : α → Except ε β) : Except.ok a >>= f = f a := rfl

@[simp] lemma error_bind (e : ε) (f : α → Except ε β) : Except.error e >>= f = .error e := rfl

lemma bind_eq_ok_iff {x : Except ε α} {f : α → Except ε β} {b : β} :
    x >>= f = .ok b ↔ ∃ a, x = .ok a ∧ f a = .ok b := by
  cases x with
  | error e => simp
  | ok a => simp

lemma bind_eq_error_iff {x : Except ε α} {f : α → Except ε β} {e : ε} :
    x >>= f = .error e ↔ x = .error e ∨ ∃ a, x = .ok a ∧ f a = .error e := by
  cases x with
  | error e' => simp
  | ok a => simp

lemma map_eq_ok_iff {x : Except ε α} {f : α → β} {b : β} :
    x.map f = .ok b ↔ ∃ a, x = .ok a ∧ f a = b := by
  cases x with
  | error e => simp [Except.map]
  | ok a => simp [Except.map]

lemma mapError_eq_ok_iff {ε' : Type} {x : Except ε α} {f : ε → ε'} {a : α} :
    x.mapError f = .ok a ↔ x = .ok a := by
  cases x with
  | error e => simp [Except.mapError]
  | ok b => simp [Except.mapError]

lemma toOption_eq_some_iff {x : Except ε α} {a : α} : x.toOption = some a ↔ x = .ok a := by
  cases x with
  | error e => simp [Except.toOption]
  | ok b => simp [Except.toOption]

lemma mapM_eq_ok_iff {f : α → Except ε β} {as : List α} {bs : List β} :
    as.mapM f = .ok bs ↔ List.Forall₂ (fun a b => f a = .ok b) as bs := by
  induction as generalizing bs with
  | nil => simp [eq_comm]
  | cons a rest ih =>
    rw [List.mapM_cons, bind_eq_ok_iff]
    constructor
    · rintro ⟨b, hb, h⟩
      obtain ⟨more, hmore, h⟩ := bind_eq_ok_iff.mp h
      cases h
      exact .cons hb (ih.mp hmore)
    · intro h
      cases h with
      | cons hb hrest => exact ⟨_, hb, bind_eq_ok_iff.mpr ⟨_, ih.mpr hrest, rfl⟩⟩

/-- The same step for each member of a list fails where it fails first. -/
lemma mapM_eq_error_iff {f : α → Except ε β} {as : List α} {e : ε} :
    as.mapM f = .error e ↔
      ∃ before a after, as = before ++ a :: after ∧ (∀ x ∈ before, ∃ b, f x = .ok b) ∧
        f a = .error e := by
  induction as with
  | nil => simp
  | cons a rest ih =>
    rw [List.mapM_cons]
    constructor
    · intro h
      cases ha : f a with
      | error e' =>
        rw [ha] at h
        cases h
        exact ⟨[], a, rest, rfl, fun _ hx => absurd hx List.not_mem_nil, ha⟩
      | ok b =>
        have hrest : rest.mapM f = .error e := by
          rw [ha] at h
          cases hrest : rest.mapM f with
          | error e' =>
            rw [hrest] at h
            exact h
          | ok bs =>
            rw [hrest] at h
            cases h
        obtain ⟨before, x, after, rfl, hbefore, hx⟩ := ih.mp hrest
        exact ⟨a :: before, x, after, rfl, List.forall_mem_cons.mpr ⟨⟨b, ha⟩, hbefore⟩, hx⟩
    · rintro ⟨before, x, after, heq, hbefore, hx⟩
      cases before with
      | nil =>
        cases heq
        rw [hx]
        rfl
      | cons first before =>
        cases heq
        obtain ⟨⟨b, hb⟩, hbefore⟩ := List.forall_mem_cons.mp hbefore
        rw [hb, ih.mpr ⟨before, x, after, rfl, hbefore, hx⟩]
        rfl

/-- The same steps in another order give the same results in that order. -/
lemma mapM_perm {f : α → Except ε β} {as as' : List α} {bs : List β} (hperm : as.Perm as')
    (h : as.mapM f = .ok bs) : ∃ bs', as'.mapM f = .ok bs' ∧ bs.Perm bs' := by
  obtain ⟨bs', hbs', hresults⟩ := List.perm_comp_forall₂ hperm.symm (mapM_eq_ok_iff.mp h)
  exact ⟨bs', mapM_eq_ok_iff.mpr hbs', hresults.symm⟩

/-! ### Two lists, member by member -/

section Forall₂

variable {γ : Type} {R : α → β → Prop} {as : List α} {bs : List β} {cs : List γ}

lemma exists_forall₂ (h : ∀ a ∈ as, ∃ b, R a b) : ∃ bs, List.Forall₂ R as bs := by
  induction as with
  | nil => exact ⟨[], .nil⟩
  | cons a rest ih =>
    obtain ⟨⟨b, hb⟩, hrest⟩ := List.forall_mem_cons.mp h
    obtain ⟨bs, hbs⟩ := ih hrest
    exact ⟨b :: bs, .cons hb hbs⟩

/-- What can be said of the members of one list can be said of those of a list that goes with it. -/
lemma Forall₂.congr_left {S : α → γ → Prop} {T : β → γ → Prop} (h : List.Forall₂ R as bs)
    (hiff : ∀ {a b}, R a b → ∀ c, S a c ↔ T b c) :
    List.Forall₂ S as cs ↔ List.Forall₂ T bs cs := by
  induction h generalizing cs with
  | nil => rw [List.forall₂_nil_left_iff, List.forall₂_nil_left_iff]
  | cons hab hrest ih => simp only [List.forall₂_cons_left_iff, hiff hab, ih]

lemma Forall₂.exists_of_mem {a : α} (h : List.Forall₂ R as bs) (ha : a ∈ as) : ∃ b ∈ bs, R a b := by
  induction h with
  | nil => cases ha
  | cons hab hrest ih =>
    rcases List.mem_cons.mp ha with rfl | ha
    · exact ⟨_, List.mem_cons_self, hab⟩
    · obtain ⟨b, hb, h⟩ := ih ha
      exact ⟨b, List.mem_cons_of_mem _ hb, h⟩

end Forall₂

end ClusterCost
