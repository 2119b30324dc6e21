/-
# What a principal is permitted

A granted permission matches a required one (`Permission.Matches`) when both have the same number of
segments and each granted segment is a star or the required one in its place.  What is granted are
the texts of one claim (`Grants`): the claim itself, or the texts among the items of a list.

**Main statements.**  `Permission.coversAll_iff` and `Principal.mem_permissions_iff`.
-/
import Mathlib.Data.List.Forall2
import Portcullis.Proofs.Json.Structure
import Portcullis.Principal

namespace Portcullis

namespace Permission

/-- A granted segment fits a required one if it is a star or equal to it. -/
def SegmentFits (granted required : Text) : Prop := granted = "*" ∨ granted = required

/-- Both have the same number of segments, and each granted segment fits the required one in its
place. -/
def Matches (granted required : Text) : Prop :=
  List.Forall₂ SegmentFits (Text.splitOn colon granted) (Text.splitOn colon required)

theorem segmentsMatch_iff (gs rs : List Text) :
    segmentsMatch gs rs = true ↔ List.Forall₂ SegmentFits gs rs := by
  induction gs generalizing rs with
  | nil => cases rs <;> simp [segmentsMatch]
  | cons g gs ih =>
    cases rs with
    | nil => simp [segmentsMatch]
    | cons r rs =>
      rw [List.forall₂_cons, ← ih rs]
      simp [segmentsMatch, star, SegmentFits]

theorem isMatch_iff (granted required : Text) :
    isMatch granted required = true ↔ Matches granted required :=
  segmentsMatch_iff _ _

/-- **Everything required is covered** when each requirement is matched by something granted. -/
theorem coversAll_iff (granted required : List Text) :
    coversAll granted required = true ↔ ∀ r ∈ required, ∃ g ∈ granted, Matches g r := by
  simp only [coversAll, List.all_eq_true, List.any_eq_true, isMatch_iff]

/-- A requirement is covered only if something is granted. -/
theorem ne_nil_of_coversAll {granted required : List Text} (h : coversAll granted required = true)
    (hrequired : required ≠ []) : granted ≠ [] := by
  obtain ⟨r, hr⟩ := List.exists_mem_of_ne_nil required hrequired
  obtain ⟨g, hg, -⟩ := (coversAll_iff granted required).mp h r hr
  exact List.ne_nil_of_mem hg

example : Matches "orders:*" "orders:read" := (isMatch_iff _ _).mp (by decide)

example : ¬ Matches "*" "orders:read" := mt (isMatch_iff _ _).mpr (by decide)

end Permission

namespace Principal

/-- The claims grant a permission: it is the claim of permissions, or a text in it. -/
def Grants (claims : Members) (p : Text) : Prop :=
  claims.get? "per" = some (.text p) ∨ ∃ items, claims.get? "per" = some (.list items)
    ∧ Json.text p ∈ items

theorem mem_permissionsOf_iff (v : Json) (t : Text) :
    t ∈ permissionsOf v ↔ v = .text t ∨ ∃ items, v = .list items ∧ Json.text t ∈ items := by
  have htext : ∀ w : Json, w.text? = some t ↔ w = .text t := by
    intro w
    cases w <;> simp [Json.text?]
  cases v with
  | text u => simp [permissionsOf, eq_comm]
  | list items => simp [permissionsOf, htext]
  | _ => simp [permissionsOf]

/-- **The permissions of a principal are those that its claims grant.** -/
theorem mem_permissions_iff (p : Principal) (t : Text) : t ∈ p.permissions ↔ Grants p.claims t := by
  have hfound : ∀ v : Json, v.isNull = false →
      (Members.getD p.claims "per" = v ↔ p.claims.get? "per" = some v) := by
    intro v hv
    exact ⟨fun h => Members.get?_of_getD h hv, fun h => congrArg (Option.getD · Json.null) h⟩
  rw [permissions, mem_permissionsOf_iff, Grants, hfound _ rfl]
  exact or_congr_right (exists_congr fun items => and_congr_left' (hfound _ rfl))

/-- Without claims there are no permissions. -/
theorem permissions_of_claims_nil {p : Principal} (h : p.claims = []) : p.permissions = [] := by
  rw [permissions, h]
  rfl

end Principal

end Portcullis
