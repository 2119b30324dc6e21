/-
# Permissions in order

A permission that matches another one is the wider of the two, and whoever holds it can pass on the
narrower one, which can be passed on again.  So matching is a partial order.  It goes segment by
segment: a star stands for one segment, whatever is in it, and never for a colon.

Whether everything required is covered depends on which permissions are granted and required, and
neither on their order nor on how often they are listed.

**Main statement.**  `isMatch_order`.
-/
import Mathlib.Order.Defs.Unbundled
import Portcullis.Proofs.Principal.Grants
import Portcullis.Proofs.Text.Cutting

namespace Portcullis.Permission

/-! ## 1. Segments -/

theorem SegmentFits.trans {a b c : Text} (hab : SegmentFits a b) (hbc : SegmentFits b c) :
    SegmentFits a c := by
  rcases hab with hstar | rfl
  · exact Or.inl hstar
  · exact hbc

/-- Two segments that fit each other are both stars, or equal anyway. -/
theorem SegmentFits.antisymm {a b : Text} (hab : SegmentFits a b) (hba : SegmentFits b a) :
    a = b := by
  rcases hab with ha | heq
  · rcases hba with hb | heq
    · rw [ha, hb]
    · exact heq.symm
  · exact heq

theorem forall₂_fits_trans {as bs cs : List Text} (hab : List.Forall₂ SegmentFits as bs)
    (hbc : List.Forall₂ SegmentFits bs cs) : List.Forall₂ SegmentFits as cs := by
  induction hab generalizing cs with
  | nil =>
    cases hbc
    exact .nil
  | cons hfirst _ ih =>
    cases hbc with
    | cons hsecond hrest => exact .cons (hfirst.trans hsecond) (ih hrest)

theorem forall₂_fits_antisymm {as bs : List Text} (hab : List.Forall₂ SegmentFits as bs)
    (hba : List.Forall₂ SegmentFits bs as) : as = bs := by
  induction hab with
  | nil => rfl
  | cons hfirst _ ih =>
    cases hba with
    | cons hsecond hrest => rw [hfirst.antisymm hsecond, ih hrest]

/-! ## 2. Permissions -/

theorem Matches.refl (p : Text) : Matches p p := (isMatch_iff p p).mp (isMatch_self p)

/-- **What is passed on** can be passed on again. -/
theorem Matches.trans {a b c : Text} (hab : Matches a b) (hbc : Matches b c) : Matches a c :=
  forall₂_fits_trans hab hbc

/-- **Permissions that match each other are the same.** -/
theorem Matches.antisymm {a b : Text} (hab : Matches a b) (hba : Matches b a) : a = b :=
  Text.splitOn_inj (forall₂_fits_antisymm hab hba)

/-- No star stands for a colon: both have as many. -/
theorem Matches.count_colon {a b : Text} (h : Matches a b) : a.count colon = b.count colon := by
  have hlength := h.length_eq
  rw [Text.length_splitOn, Text.length_splitOn] at hlength
  exact Nat.succ.inj hlength

/-! ## 3. Lists of permissions -/

theorem coversAll_self (permissions : List Text) : coversAll permissions permissions = true :=
  (coversAll_iff _ _).mpr fun p hp => ⟨p, hp, Matches.refl p⟩

/-- What covers everything that covers something covers that. -/
theorem coversAll_trans {a b c : List Text} (hab : coversAll a b = true)
    (hbc : coversAll b c = true) : coversAll a c = true := by
  refine (coversAll_iff a c).mpr fun r hr => ?_
  obtain ⟨between, hbetween, hmatch⟩ := (coversAll_iff b c).mp hbc r hr
  obtain ⟨g, hg, hgmatch⟩ := (coversAll_iff a b).mp hab between hbetween
  exact ⟨g, hg, hgmatch.trans hmatch⟩

/-- Whoever is granted more is covered for more, and for less. -/
theorem coversAll_mono {granted granted' required required' : List Text}
    (hgranted : granted ⊆ granted') (hrequired : required' ⊆ required)
    (h : coversAll granted required = true) : coversAll granted' required' = true := by
  refine (coversAll_iff granted' required').mpr fun r hr => ?_
  obtain ⟨g, hg, hmatch⟩ := (coversAll_iff granted required).mp h r (hrequired hr)
  exact ⟨g, hgranted hg, hmatch⟩

/-- **Matching is a partial order** on permissions, segment by segment, and covering is a preorder
on lists of them.  More grants cover as much, and fewer requirements need no more, in any order and
however often they are listed; requirements are judged one list after the other. -/
theorem isMatch_order :
    IsPartialOrder Text (fun granted required => isMatch granted required = true)
      ∧ IsPreorder (List Text) (fun granted required => coversAll granted required = true)
      ∧ (∀ granted granted' required required', granted ⊆ granted' → required' ⊆ required →
        coversAll granted required = true → coversAll granted' required' = true)
      ∧ (∀ granted first second, coversAll granted (first ++ second) = true
        ↔ coversAll granted first = true ∧ coversAll granted second = true)
      ∧ ∀ granted required, (isMatch granted required = true ↔ Matches granted required)
        ∧ (Matches granted required → granted.count colon = required.count colon) := by
  refine ⟨?_, ?_, fun _ _ _ _ => coversAll_mono, ?_, ?_⟩
  · simp only [isMatch_iff]
    exact { refl := Matches.refl
            trans := fun _ _ _ => Matches.trans
            antisymm := fun _ _ => Matches.antisymm }
  · exact { refl := coversAll_self
            trans := fun _ _ _ => coversAll_trans }
  · intro granted first second
    rw [coversAll_append, Bool.and_eq_true]
  · exact fun granted required => ⟨isMatch_iff granted required, Matches.count_colon⟩

end Portcullis.Permission
