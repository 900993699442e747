import ClusterCost.Proofs.Json.Ending
import ClusterCost.Proofs.Json.Meaning
import ClusterCost.Proofs.Json.Texts

/-!
# Scanning values

The scan of a text comes to the end of the text without a fault if and only if the text is one of
the grammar, and then its outline says what the text says (`Document.says_iff`). The scan of each
part of the grammar is a lemma: it stops where the part ends.
-/

namespace ClusterCost.Json

namespace Scan

/-! ### Values -/

/-- The outline of a number says its value, if that is not too large. -/
lemma tree?_numberOutline (start : Nat) (l : Literal) (after : Cursor) :
    (numberOutline start l after).tree? = some (.number l.value?.toOption) := by
  rw [numberOutline, Outline.tree?]
  cases l.value? with
  | ok n => rfl
  | error cause => cases cause <;> rfl

/-- What starts as a number is scanned as one. -/
lemma scanValue_of_number {b : UInt8} (h : b = 0x2D ∨ Literal.isDigit b = true) {bytes more : Bytes}
    {place place' : Nat}
    (hskip : skipBlank bytes place = ⟨b :: more, place'⟩) (e : Ending) (fuel : Nat) :
    scanValue e (fuel + 1) bytes place =
      match scanNumber e ⟨b :: more, place'⟩ with
      | .ok (number, after) => (number, some after)
      | .error fault => (.broken place' fault, none) := by
  have hne := @beq_eq_false_of_number b h
  have hb : (b == 0x2D || Literal.isDigit b) = true := by simpa using h
  rw [scanValue, hskip]
  simp only [hne 0x6E, hne 0x74, hne 0x66, hne 0x22, hb]
  rfl

mutual

/-- A scan of a value finds what the value says, and stops where the value ends. -/
theorem scanValue_of_denotes {input rest : Bytes} {t : Tree} (h : Denotes input t rest)
    {bytes : Bytes} (hblanks : Blanks bytes input) (fuel : Nat) (hfuel : 2 * input.length ≤ fuel)
    (place : Nat) :
    ∃ o place', scanValue .finished fuel bytes place = (o, some ⟨rest, place'⟩) ∧
      o.tree? = some t := by
  have hlen := h.length_lt
  obtain ⟨b, more, hinput, hb, -⟩ := h.first
  obtain ⟨fuel, rfl⟩ : ∃ f, fuel = f + 1 := ⟨fuel - 1, by omega⟩
  rw [hinput] at hblanks
  obtain ⟨place₁, hskip⟩ := skipBlank_eq hblanks hb place
  cases h with
  | @number input rest l h =>
    obtain ⟨b, more, rfl, hfirst, -⟩ := h.first
    cases hinput
    obtain ⟨place₂, hnumber⟩ := scanNumber_of_spells h place₁
    exact ⟨_, place₂, by rw [scanValue_of_number hfirst hskip, hnumber], tree?_numberOutline ..⟩
  | null rest =>
    cases hinput
    rw [scanValue, hskip]
    exact ⟨_, _, rfl, rfl⟩
  | yes rest =>
    cases hinput
    rw [scanValue, hskip]
    exact ⟨_, _, rfl, rfl⟩
  | no rest =>
    cases hinput
    rw [scanValue, hskip]
    exact ⟨_, _, rfl, rfl⟩
  | text h =>
    cases hinput
    obtain ⟨value, place₂, htext, hvalue⟩ :=
      scanText_of_spells (e := .finished) h [] none (place₁ + 1)
    rw [scanValue, hskip]
    simp [htext, Outline.tree?, hvalue, ofSeen]
  | list h =>
    cases hinput
    obtain ⟨items, place₂, hitems, hvalue⟩ :=
      scanItems_of_denotes h fuel (by simp at hfuel; omega) place₁ (place₁ + 1)
    rw [scanValue, hskip]
    exact ⟨_, _, hitems, by simp [Outline.tree?, hvalue]⟩
  | object h =>
    cases hinput
    obtain ⟨members, place₂, hmembers, hvalue⟩ :=
      scanMembers_of_denotes h fuel (by simp at hfuel; omega) place₁ (place₁ + 1)
    rw [scanValue, hskip]
    exact ⟨_, _, hmembers, by simp [Outline.tree?, hvalue]⟩

lemma scanItems_of_denotes {input rest : Bytes} {ts : List Tree} (h : DenotesItems input ts rest)
    (fuel : Nat)
    (hfuel : 2 * input.length + 1 ≤ fuel) (start place : Nat) :
    ∃ items place', scanItems .finished fuel start [] input place =
      (.list start items (.ok place'), some ⟨rest, place'⟩) ∧
      Outline.itemTrees? items = some ts := by
  obtain ⟨fuel, rfl⟩ : ∃ f, fuel = f + 1 := ⟨fuel - 1, by omega⟩
  cases h with
  | none h =>
    obtain ⟨place₁, hskip⟩ := skipBlank_eq h rfl place
    refine ⟨[], place₁ + 1, ?_, rfl⟩
    rw [scanItems]
    simp [hskip]
  | @some input first mid next rest t ts hbefore ht hafter hmore =>
    have hlen := ht.length_lt
    obtain ⟨b, more, rfl, hb, hclose⟩ := ht.first
    obtain ⟨place₁, hskip⟩ := skipBlank_eq hbefore hb place
    have hfirst := hbefore.length_le
    have hnext := hafter.length_le
    obtain ⟨o, place₂, hscan, ho⟩ := scanValue_of_denotes ht (.none _) fuel (by omega) place₁
    obtain ⟨items, place₃, hitems, hvalue⟩ :=
      scanMoreItems_of_denotes hmore hafter fuel (by omega) start (List.cons_ne_nil o []) place₂
    refine ⟨o :: items, place₃, ?_, by rw [Outline.itemTrees?, ho, hvalue]⟩
    rw [scanItems]
    simp only [hskip, hclose, hscan, hitems]
    rfl

lemma scanMoreItems_of_denotes {input rest : Bytes} {ts : List Tree}
    (h : DenotesMoreItems input ts rest) {bytes : Bytes}
    (hblanks : Blanks bytes input) (fuel : Nat) (hfuel : 2 * input.length + 1 ≤ fuel) (start : Nat)
    {seen : List Outline}
    (hseen : seen ≠ []) (place : Nat) :
    ∃ items place', scanItems .finished fuel start seen bytes place =
        (.list start (seen.reverse ++ items) (.ok place'), some ⟨rest, place'⟩) ∧
      Outline.itemTrees? items = some ts := by
  obtain ⟨fuel, rfl⟩ : ∃ f, fuel = f + 1 := ⟨fuel - 1, by omega⟩
  cases h with
  | none rest =>
    obtain ⟨place₁, hskip⟩ := skipBlank_eq hblanks rfl place
    refine ⟨[], place₁ + 1, ?_, rfl⟩
    rw [scanItems]
    simp [hskip]
  | @some input first mid next rest t ts hbefore ht hafter hmore =>
    have hlen := ht.length_lt
    obtain ⟨b, more, rfl, hb, hclose⟩ := ht.first
    obtain ⟨place₁, hskip⟩ := skipBlank_eq hblanks rfl place
    obtain ⟨place₂, hnextskip⟩ := skipBlank_eq hbefore hb (place₁ + 1)
    have hfirst := hbefore.length_le
    have hnext := hafter.length_le
    rw [List.length_cons] at hfuel
    obtain ⟨o, place₃, hscan, ho⟩ := scanValue_of_denotes ht (.none _) fuel (by omega) place₂
    obtain ⟨items, place₄, hitems, hvalue⟩ :=
      scanMoreItems_of_denotes hmore hafter fuel (by omega) start (List.cons_ne_nil o seen) place₃
    refine ⟨o :: items, place₄, ?_, by rw [Outline.itemTrees?, ho, hvalue]⟩
    have hempty : seen.isEmpty = false := by simpa using hseen
    rw [scanItems]
    simp only [hskip, hempty, hnextskip, hscan, hitems]
    rw [if_neg (by decide), if_neg Bool.false_ne_true, if_pos (by decide)]
    split
    · rename_i hnil
      cases hnil
    · rename_i hbracket
      cases hbracket
      cases hclose
    · rw [List.reverse_cons, List.append_assoc, List.singleton_append]

lemma scanMember_of_denotes {input rest : Bytes} {m : Option String × Tree}
    (h : DenotesMember input m rest) (fuel : Nat)
    (hfuel : 2 * input.length ≤ fuel) (place : Nat) :
    ∃ text key afterKey place₁ afterColon place₂ o place₃, input = 0x22 :: text ∧
      scanText .finished [] none 0 text place = .ok ⟨key, ⟨afterKey, place₁⟩⟩ ∧ key.toOption = m.1 ∧
      skipBlank afterKey place₁ = ⟨0x3A :: afterColon, place₂⟩ ∧
      scanValue .finished fuel afterColon (place₂ + 1) = (o, some ⟨rest, place₃⟩) ∧
      o.tree? = some m.2 := by
  cases h with
  | @intro text afterKey afterColon first rest key t hkey hcolon hbefore ht =>
    obtain ⟨value, place₁, htext, hvalue⟩ := scanText_of_spells (e := .finished) hkey [] none place
    obtain ⟨place₂, hskip⟩ := skipBlank_eq hcolon rfl place₁
    have hlen := hkey.length_lt
    have hlen₁ := hcolon.length_le
    have hlen₂ := hbefore.length_le
    rw [List.length_cons] at hfuel hlen₁
    obtain ⟨o, place₃, hscan, ho⟩ := scanValue_of_denotes ht hbefore fuel (by omega) (place₂ + 1)
    exact ⟨text, value, afterKey, place₁, afterColon, place₂, o, place₃, rfl, htext,
      by simp [hvalue, ofSeen], hskip, hscan, ho⟩

lemma scanMembers_of_denotes {input rest : Bytes} {ms : List (Option String × Tree)}
    (h : DenotesMembers input ms rest) (fuel : Nat)
    (hfuel : 2 * input.length + 1 ≤ fuel) (start place : Nat) :
    ∃ members place', scanMembers .finished fuel start [] input place =
      (.object start members (.ok place'), some ⟨rest, place'⟩) ∧
      Outline.memberTrees? members = some ms := by
  obtain ⟨fuel, rfl⟩ : ∃ f, fuel = f + 1 := ⟨fuel - 1, by omega⟩
  cases h with
  | none h =>
    obtain ⟨place₁, hskip⟩ := skipBlank_eq h rfl place
    refine ⟨[], place₁ + 1, ?_, rfl⟩
    rw [scanMembers]
    simp [hskip]
  | @some input first mid next rest m ms hbefore hm hafter hmore =>
    have hlen := hm.length_lt
    have hfirst := hbefore.length_le
    have hnext := hafter.length_le
    obtain ⟨b, more, rfl, hb⟩ := hmore.first
    obtain ⟨text, key, afterKey, place₁, afterColon, place₂, o, place₃, rfl, htext, hkey, hcolon,
        hscan, ho⟩ :=
      scanMember_of_denotes hm fuel (by omega) ((skipBlank input place).place + 1)
    obtain ⟨place₀, hskip⟩ := skipBlank_eq hbefore rfl place
    obtain ⟨place₄, hnextskip⟩ := skipBlank_eq hafter hb place₃
    obtain ⟨members, place₅, hmembers, hvalue⟩ :=
      scanMoreMembers_of_denotes hmore fuel (by omega) start
      (List.cons_ne_nil (⟨key, place₁, place₂, place₄⟩, o) []) place₄
    refine ⟨(⟨key, place₁, place₂, place₄⟩, o) :: members, place₅, ?_,
      by rw [Outline.memberTrees?, ho, hvalue, hkey]⟩
    rw [hskip] at htext
    rw [scanMembers]
    simp only [hskip, htext, hcolon, hscan, hnextskip, hmembers]
    rfl

lemma scanMoreMembers_of_denotes {input rest : Bytes} {ms : List (Option String × Tree)}
    (h : DenotesMoreMembers input ms rest)
    (fuel : Nat) (hfuel : 2 * input.length + 1 ≤ fuel) (start : Nat) {seen : List (Key × Outline)}
    (hseen : seen ≠ [])
    (place : Nat) :
    ∃ members place', scanMembers .finished fuel start seen input place =
        (.object start (seen.reverse ++ members) (.ok place'), some ⟨rest, place'⟩) ∧
      Outline.memberTrees? members = some ms := by
  obtain ⟨fuel, rfl⟩ : ∃ f, fuel = f + 1 := ⟨fuel - 1, by omega⟩
  cases h with
  | none rest =>
    refine ⟨[], place + 1, ?_, rfl⟩
    rw [scanMembers]
    simp [skipBlank_cons (b := 0x7D) rfl]
  | @some input first mid next rest m ms hbefore hm hafter hmore =>
    have hlen := hm.length_lt
    have hfirst := hbefore.length_le
    have hnext := hafter.length_le
    rw [List.length_cons] at hfuel
    obtain ⟨b, more, rfl, hb⟩ := hmore.first
    obtain ⟨text, key, afterKey, place₁, afterColon, place₂, o, place₃, rfl, htext, hkey, hcolon,
        hscan, ho⟩ :=
      scanMember_of_denotes hm fuel (by omega) ((skipBlank input (place + 1)).place + 1)
    obtain ⟨place₀, hskip⟩ := skipBlank_eq hbefore rfl (place + 1)
    obtain ⟨place₄, hnextskip⟩ := skipBlank_eq hafter hb place₃
    obtain ⟨members, place₅, hmembers, hvalue⟩ :=
      scanMoreMembers_of_denotes hmore fuel (by omega) start
      (List.cons_ne_nil (⟨key, place₁, place₂, place₄⟩, o) seen) place₄
    refine ⟨(⟨key, place₁, place₂, place₄⟩, o) :: members, place₅, ?_,
      by rw [Outline.memberTrees?, ho, hvalue, hkey]⟩
    have hempty : seen.isEmpty = false := by simpa using hseen
    rw [hskip] at htext
    rw [scanMembers]
    simp only [skipBlank_cons (b := 0x2C) rfl, hempty, hskip]
    rw [if_neg (by decide), if_neg Bool.false_ne_true, if_pos (by decide)]
    simp only [htext, hcolon, hscan, hnextskip, hmembers]
    rw [List.reverse_cons, List.append_assoc, List.singleton_append]

end

lemma trailingFailure_finished {rest : Bytes} (h : Blanks rest []) (place : Nat) :
    trailingFailure .finished ⟨rest, place⟩ = none := by
  obtain ⟨place', hskip⟩ := skipBlank_of_blanks h (fun _ => rfl) place
  unfold trailingFailure
  simp only [hskip]

/-! ### Values that were found -/

lemma blanks_skipBlank (bytes : Bytes) (place : Nat) :
    Blanks bytes (skipBlank bytes place).rest := by
  induction bytes generalizing place with
  | nil => exact .none []
  | cons b rest ih =>
    rw [skipBlank]
    split_ifs with hb
    · exact .some hb (ih _)
    · exact .none _

lemma scanWord_eq_ok {e : Ending} {letters bytes : Bytes} {place : Nat} {after : Cursor}
    (h : scanWord e letters bytes place = .ok after) : bytes = letters ++ after.rest := by
  induction letters generalizing bytes place with
  | nil =>
    rw [scanWord] at h
    cases h
    rfl
  | cons letter letters ih =>
    cases bytes with
    | nil => cases h
    | cons b rest =>
      rw [scanWord] at h
      split_ifs at h with hb
      rw [beq_iff_eq.mp hb, ih h, List.cons_append]

lemma wordStep_eq_some {e : Ending} {letters rest : Bytes} {place : Nat} {value : Nat → Outline}
    {o : Outline} {after : Cursor} (h : wordStep e letters rest place value = (o, some after)) :
    rest = letters ++ after.rest ∧ o = value after.place := by
  rw [wordStep] at h
  split at h
  · rename_i found hword
    obtain ⟨rfl, hafter⟩ := Prod.mk.inj h
    cases hafter
    exact ⟨scanWord_eq_ok hword, rfl⟩
  · obtain ⟨-, hafter⟩ := Prod.mk.inj h
    cases hafter

/-- The items that a scan found, those before them put aside. -/
def FoundItems (seen : List Outline) (start : Nat) (bytes rest : Bytes) (o : Outline) : Prop :=
  ∃ items ts stop, o = .list start (seen.reverse ++ items) (.ok stop) ∧
    Outline.itemTrees? items = some ts ∧
    if seen.isEmpty then DenotesItems bytes ts rest
    else ∃ next, Blanks bytes next ∧ DenotesMoreItems next ts rest

def FoundMembers (seen : List (Key × Outline)) (start : Nat) (bytes rest : Bytes) (o : Outline) :
    Prop :=
  ∃ members ms stop, o = .object start (seen.reverse ++ members) (.ok stop) ∧
    Outline.memberTrees? members = some ms ∧
    if seen.isEmpty then DenotesMembers bytes ms rest
    else ∃ next, Blanks bytes next ∧ DenotesMoreMembers next ms rest

/-- Where scans with this fuel come to an end, they have found values, items and members of the
grammar, and the outlines say these. -/
structure Finds (e : Ending) (fuel : Nat) : Prop where
  value : ∀ {bytes : Bytes} {place : Nat} {o : Outline} {after : Cursor},
    scanValue e fuel bytes place = (o, some after) →
    ∃ input t, Blanks bytes input ∧ Denotes input t after.rest ∧ o.tree? = some t
  items :
    ∀ {start : Nat} {seen : List Outline} {bytes : Bytes} {place : Nat} {o : Outline}
      {after : Cursor},
    scanItems e fuel start seen bytes place = (o, some after) →
      FoundItems seen start bytes after.rest o
  members :
    ∀ {start : Nat} {seen : List (Key × Outline)} {bytes : Bytes} {place : Nat} {o : Outline}
      {after : Cursor},
    scanMembers e fuel start seen bytes place = (o, some after) →
      FoundMembers seen start bytes after.rest o

section Finds

variable {e : Ending} {fuel start place : Nat} {bytes : Bytes} {o value : Outline}
  {after found : Cursor}

lemma Finds.value_succ (hfinds : Finds e fuel)
    (h : scanValue e (fuel + 1) bytes place = (o, some after)) :
    ∃ input t, Blanks bytes input ∧ Denotes input t after.rest ∧ o.tree? = some t := by
  have hblanks := blanks_skipBlank bytes place
  rw [scanValue] at h
  split at h
  · cases (Prod.mk.inj h).2
  · rename_i b rest hrest
    rw [hrest] at hblanks
    refine ⟨b :: rest, ?_⟩
    simp only [hblanks, true_and]
    simp only [beq_iff_eq] at h
    split_ifs at h with hnull hyes hno htext hnumber hlist hobject
    · obtain ⟨rfl, rfl⟩ := wordStep_eq_some h
      exact ⟨_, hnull ▸ .null _, rfl⟩
    · obtain ⟨rfl, rfl⟩ := wordStep_eq_some h
      exact ⟨_, hyes ▸ .yes _, rfl⟩
    · obtain ⟨rfl, rfl⟩ := wordStep_eq_some h
      exact ⟨_, hno ▸ .no _, rfl⟩
    · split at h
      · rename_i found hscan
        obtain ⟨rfl, hafter⟩ := Prod.mk.inj h
        cases hafter
        obtain ⟨cs, hspells, hvalue⟩ := spells_of_scanText hscan
        subst htext
        refine ⟨_, .text hspells, ?_⟩
        rw [Outline.tree?, hvalue]
        rfl
      · cases (Prod.mk.inj h).2
    · split at h
      · rename_i number found hscan
        obtain ⟨rfl, hafter⟩ := Prod.mk.inj h
        cases hafter
        obtain ⟨l, hspells, rfl⟩ := spells_of_scanNumber hscan
        rw [hrest] at hspells
        exact ⟨_, .number hspells, tree?_numberOutline ..⟩
      · cases (Prod.mk.inj h).2
    · obtain ⟨items, ts, stop, rfl, hts, hdenotes⟩ := hfinds.items h
      subst hlist
      exact ⟨_, .list hdenotes,
        by rw [List.reverse_nil, List.nil_append, Outline.tree?, hts, Option.map_some]⟩
    · obtain ⟨members, ms, stop, rfl, hms, hdenotes⟩ := hfinds.members h
      subst hobject
      exact ⟨_, .object hdenotes,
        by rw [List.reverse_nil, List.nil_append, Outline.tree?, hms, Option.map_some]⟩
    · cases (Prod.mk.inj h).2

/-- What an item and what follows it make together. -/
lemma Finds.item (hfinds : Finds e fuel) {seen : List Outline}
    (hvalue : scanValue e fuel bytes place = (value, some found))
    (h : scanItems e fuel start (value :: seen) found.rest found.place = (o, some after)) :
    ∃ first next t ts items stop, Blanks bytes first ∧ Denotes first t found.rest ∧
      Blanks found.rest next ∧
      DenotesMoreItems next ts after.rest ∧ Outline.itemTrees? items = some (t :: ts) ∧
      o = .list start (seen.reverse ++ items) (.ok stop) := by
  obtain ⟨first, t, hfirst, ht, hvalue⟩ := hfinds.value hvalue
  obtain ⟨items, ts, stop, rfl, hts, next, hnext, hmore⟩ := hfinds.items h
  refine ⟨first, next, t, ts, value :: items, stop, hfirst, ht, hnext, hmore, ?_, ?_⟩
  · rw [Outline.itemTrees?, hvalue, hts]
  · rw [List.reverse_cons, List.append_assoc, List.singleton_append]

lemma Finds.items_succ (hfinds : Finds e fuel) {seen : List Outline}
    (h : scanItems e (fuel + 1) start seen bytes place = (o, some after)) :
    FoundItems seen start bytes after.rest o := by
  have hblanks := blanks_skipBlank bytes place
  rw [scanItems] at h
  simp only [beq_iff_eq] at h
  split at h
  · cases (Prod.mk.inj h).2
  · rename_i b rest hrest
    rw [hrest] at hblanks h
    split_ifs at h with hclose hseen hcomma
    · obtain ⟨rfl, hafter⟩ := Prod.mk.inj h
      cases hafter
      refine ⟨[], [], _, by rw [List.append_nil], rfl, ?_⟩
      subst hclose
      split_ifs
      · exact .none hblanks
      · exact ⟨_, hblanks, .none rest⟩
    · split at h
      · rename_i value found hvalue
        obtain ⟨first, next, t, ts, items, stop, hfirst, ht, hnext, hmore, hts, rfl⟩ :=
          hfinds.item hvalue h
        refine ⟨items, t :: ts, stop, rfl, hts, ?_⟩
        rw [if_pos hseen]
        exact .some (hblanks.trans hfirst) ht hnext hmore
      · cases (Prod.mk.inj h).2
    · split at h
      · cases (Prod.mk.inj h).2
      · cases (Prod.mk.inj h).2
      · split at h
        · rename_i value found hvalue
          obtain ⟨first, next, t, ts, items, stop, hfirst, ht, hnext, hmore, hts, rfl⟩ :=
            hfinds.item hvalue h
          refine ⟨items, t :: ts, stop, rfl, hts, ?_⟩
          rw [if_neg hseen]
          subst hcomma
          exact ⟨_, hblanks, .some ((blanks_skipBlank rest _).trans hfirst) ht hnext hmore⟩
        · cases (Prod.mk.inj h).2
    · cases (Prod.mk.inj h).2

/-- What a member and what follows it make together. -/
lemma Finds.member (hfinds : Finds e fuel) {seen : List (Key × Outline)} {more : Bytes} {key : Key}
    {text : Scanned}
    (htext : scanText e [] none 0 bytes place = .ok text)
    (hcolon : (skipBlank text.after.rest text.after.place).rest = 0x3A :: more)
    (hvalue : scanValue e fuel more ((skipBlank text.after.rest text.after.place).place + 1) =
       (value, some found))
    (hkey : key.text = text.value)
    (h : scanMembers e fuel start ((key, value) :: seen) (skipBlank found.rest found.place).rest
      (skipBlank found.rest found.place).place = (o, some after)) :
    ∃ next m ms members stop, DenotesMember (0x22 :: bytes) m found.rest ∧ Blanks found.rest next ∧
      DenotesMoreMembers next ms after.rest ∧ Outline.memberTrees? members = some (m :: ms) ∧
      o = .object start (seen.reverse ++ members) (.ok stop) := by
  obtain ⟨cs, hspells, htext⟩ := spells_of_scanText htext
  have hblanks := blanks_skipBlank text.after.rest text.after.place
  rw [hcolon] at hblanks
  obtain ⟨first, t, hfirst, ht, hvalue⟩ := hfinds.value hvalue
  obtain ⟨members, ms, stop, rfl, hms, next, hnext, hmore⟩ := hfinds.members h
  refine ⟨next, _, ms, (key, value) :: members, stop, .intro hspells hblanks hfirst ht,
    (blanks_skipBlank _ _).trans hnext, hmore, ?_, ?_⟩
  · rw [Outline.memberTrees?, hvalue, hms, hkey, htext]
    rfl
  · rw [List.reverse_cons, List.append_assoc, List.singleton_append]

lemma Finds.members_succ (hfinds : Finds e fuel) {seen : List (Key × Outline)}
    (h : scanMembers e (fuel + 1) start seen bytes place = (o, some after)) :
    FoundMembers seen start bytes after.rest o := by
  have hblanks := blanks_skipBlank bytes place
  rw [scanMembers] at h
  simp only [beq_iff_eq] at h
  split at h
  · cases (Prod.mk.inj h).2
  · rename_i b rest hrest
    rw [hrest] at hblanks
    split_ifs at h with hclose hseen hquote hcomma
    · obtain ⟨rfl, hafter⟩ := Prod.mk.inj h
      cases hafter
      refine ⟨[], [], _, by rw [List.append_nil], rfl, ?_⟩
      subst hclose
      split_ifs
      · exact .none hblanks
      · exact ⟨_, hblanks, .none rest⟩
    · split at h
      · cases (Prod.mk.inj h).2
      rename_i found hkey
      split at h
      · cases (Prod.mk.inj h).2
      · rename_i more hcolon
        split at h
        · rename_i value afterValue hvalue
          obtain ⟨next, m, ms, members, stop, hm, hnext, hmore, hms, rfl⟩ :=
            hfinds.member hkey hcolon hvalue rfl h
          refine ⟨members, m :: ms, stop, rfl, hms, ?_⟩
          rw [if_pos hseen]
          subst hquote
          exact .some hblanks hm hnext hmore
        · cases (Prod.mk.inj h).2
      · cases (Prod.mk.inj h).2
    · cases (Prod.mk.inj h).2
    · have hquote := blanks_skipBlank rest ((skipBlank bytes place).place + 1)
      split at h
      · cases (Prod.mk.inj h).2
      · rename_i more hmorerest
        rw [hmorerest] at hquote
        split at h
        · cases (Prod.mk.inj h).2
        rename_i found hkey
        split at h
        · cases (Prod.mk.inj h).2
        · rename_i more hcolon
          split at h
          · rename_i value afterValue hvalue
            obtain ⟨next, m, ms, members, stop, hm, hnext, hmore, hms, rfl⟩ :=
              hfinds.member hkey hcolon hvalue rfl h
            refine ⟨members, m :: ms, stop, rfl, hms, ?_⟩
            rw [if_neg hseen]
            subst hcomma
            exact ⟨_, hblanks, .some hquote hm hnext hmore⟩
          · cases (Prod.mk.inj h).2
        · cases (Prod.mk.inj h).2
      · cases (Prod.mk.inj h).2
      · cases (Prod.mk.inj h).2
    · cases (Prod.mk.inj h).2

/-- A scan that comes to an end has found what the grammar has. The induction is on the fuel: each
step leaves one less for its parts. -/
theorem finds (e : Ending) (fuel : Nat) : Finds e fuel := by
  induction fuel with
  | zero =>
    refine ⟨fun h => ?_, fun h => ?_, fun h => ?_⟩
    · rw [scanValue] at h
      cases (Prod.mk.inj h).2
    · rw [scanItems] at h
      cases (Prod.mk.inj h).2
    · rw [scanMembers] at h
      cases (Prod.mk.inj h).2
  | succ fuel ih => exact ⟨ih.value_succ, ih.items_succ, ih.members_succ⟩

end Finds

lemma blanks_of_trailingFailure {after : Cursor} (h : trailingFailure .finished after = none) :
    Blanks after.rest [] := by
  have hblanks := blanks_skipBlank after.rest after.place
  unfold trailingFailure at h
  cases hrest : (skipBlank after.rest after.place).rest with
  | nil => rwa [hrest] at hblanks
  | cons b rest => simp [hrest] at h

end Scan

/-- What has no end says nothing. -/
lemma Outline.tree?_of_stop? {o : Outline} (h : o.stop? = none) : o.tree? = none := by
  cases hsaid : o.tree? with
  | none => rfl
  | some t => cases tree?_eq_some_iff.mp hsaid <;> cases h

namespace Document

/-- The outline of a text of the grammar says what the text says, and nothing follows it. -/
theorem scan_of_text {text : Bytes} {t : Tree} (h : Says text t) :
    ∃ o, scan text .finished = ⟨o, none⟩ ∧ o.tree? = some t := by
  obtain ⟨start, rest, hbefore, ht, hafter⟩ := h
  obtain ⟨b, more, rfl, hb, -⟩ := ht.first
  obtain ⟨place, hskip⟩ := Scan.skipBlank_eq hbefore hb 0
  obtain ⟨o, place', hscan, ho⟩ :=
    Scan.scanValue_of_denotes ht (.none _) (2 * (b :: more).length + 2) (by omega) place
  refine ⟨o, ?_, ho⟩
  unfold scan
  simp only [hskip, hscan, Scan.trailingFailure_finished hafter]

/-- A text whose outline has no fault, and which nothing follows, is one of the grammar. -/
theorem says_of_scan {text : Bytes} {o : Outline} {t : Tree} (h : scan text .finished = ⟨o, none⟩)
    (ho : o.tree? = some t) : Says text t := by
  have hblanks := Scan.blanks_skipBlank text 0
  unfold scan at h
  simp only at h
  split at h
  · rename_i hfinished
    cases hfinished
  split at h
  · rename_i value after hscan
    obtain ⟨rfl, htrailing⟩ := Document.mk.inj h
    obtain ⟨start, t', hstart, ht', ho'⟩ := (Scan.finds _ _).value hscan
    cases ho'.symm.trans ho
    exact ⟨start, _, hblanks.trans hstart, ht', Scan.blanks_of_trailingFailure htrailing⟩
  · rename_i value hscan
    obtain ⟨rfl, -⟩ := Document.mk.inj h
    have hstop := Scan.sound_scanValue .finished (2 * (Scan.skipBlank text 0).rest.length + 2)
      (Scan.skipBlank text 0).rest
      (Scan.skipBlank text 0).place
    rw [hscan] at hstop
    replace hstop := hstop rfl
    rw [Outline.tree?_of_stop? hstop] at ho
    cases ho

/-- What a text says is what its outline says, and nothing follows it. -/
theorem says_iff {text : Bytes} {t : Tree} :
    Says text t ↔ ∃ o, scan text .finished = ⟨o, none⟩ ∧ o.tree? = some t := by
  constructor
  · exact scan_of_text
  · rintro ⟨o, hscan, ho⟩
    exact says_of_scan hscan ho

end Document

/-- A text says one thing. -/
theorem Says.unique {text : Bytes} {t t' : Tree} (h : Says text t) (h' : Says text t') :
    t = t' := by
  obtain ⟨o, hscan, ho⟩ := Document.scan_of_text h
  obtain ⟨o', hscan', ho'⟩ := Document.scan_of_text h'
  cases hscan.symm.trans hscan'
  exact Option.some.inj (ho.symm.trans ho')

end ClusterCost.Json
