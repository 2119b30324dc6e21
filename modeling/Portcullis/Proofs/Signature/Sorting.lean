/-
# What is signed is sorted

Before an object is signed its members are put in the order of their names, at every depth.  What
comes out stands for all values that are the same tree (`Represents`): it is one of them, it is the
only one whose names increase, and every path leads in it to what it led to.  Two values come out
the same exactly when they are the same tree.

Values that nest too deep are not sorted at all: sorting follows the nesting, and how far it may go
depends on the calls that are under way when it begins.  What is stated here holds of every depth.

**Main statement.**  `sortedTree_represents`.
-/
import Portcullis.Proofs.Json.Increasing
import Portcullis.Signature

namespace Portcullis.Signature

open Json

/-! ## 1. What can be sorted -/

theorem sortedTree_eq_ok_iff {depth : Nat} {v w : Json} :
    sortedTree depth v = .ok w ↔ v.nestsWithin depth = true ∧ v.sorted = w := by
  rw [sortedTree]
  cases v.nestsWithin depth <;> simp

/-- Of values that are the same tree both nest too deep or none. -/
theorem nestsWithin_congr {u v : Json} (hu : UniqueNames u) (h : SameTree u v) (n : Nat) :
    u.nestsWithin n = v.nestsWithin n := by
  rw [← nestsWithin_sorted, h.sorted_eq hu, nestsWithin_sorted]

/-- The value stands for a tree: it is the same tree, the only one whose names increase, and a path
leads in it to what it leads to in the tree, sorted. -/
structure Represents (w v : Json) : Prop where
  same : SameTree v w
  increasing : Increasing w
  only : ∀ x, SameTree v x → Increasing x → x = w
  paths : ∀ path, w.at? path = (v.at? path).map sorted

theorem represents_sorted {v : Json} (names : UniqueNames v) : Represents v.sorted v where
  same := sameTree_sorted names
  increasing := increasing_sorted names
  only _ hsame hx := hx.eq_sorted names hsame
  paths := at?_sorted names

/-! ## 2. What it is sorted to -/

/-- **A value is sorted to what stands for its tree**, however deep sorting may go as long as that
is deep enough, and sorting that changes nothing.  Other values are sorted to it exactly if they are
the same tree. -/
theorem sortedTree_represents {depth : Nat} {v : Json} (names : UniqueNames v)
    (nests : v.nestsWithin depth = true) :
    ∃ w, sortedTree depth v = .ok w ∧ Represents w v ∧ sortedTree depth w = .ok w
      ∧ ∀ u, sortedTree depth u = sortedTree depth v ↔ SameTree v u := by
  have hv : sortedTree depth v = .ok v.sorted := sortedTree_eq_ok_iff.mpr ⟨nests, rfl⟩
  refine ⟨v.sorted, hv, represents_sorted names, ?_, fun u => ?_⟩
  · exact sortedTree_eq_ok_iff.mpr ⟨nestsWithin_sorted.trans nests, sorted_sorted names⟩
  rw [hv, sortedTree_eq_ok_iff]
  constructor
  · rintro ⟨-, hsorted⟩
    exact sameTree_of_sorted_eq hsorted.symm
  · intro h
    exact ⟨(nestsWithin_congr names h depth).symm.trans nests, (h.sorted_eq names).symm⟩

/-- A payload with objects in a list. -/
def samplePayload : Json :=
  .object [("b", .list [.object [("d", .int 1), ("c", .int 2)], .list []]), ("a", .null)]

/-- The payload in the order of its names. -/
def samplePayloadSorted : Json :=
  .object [("a", .null), ("b", .list [.object [("c", .int 2), ("d", .int 1)], .list []])]

theorem sortedTree_samplePayload :
    UniqueNames samplePayload ∧ samplePayload.nestsWithin 3 = true
      ∧ sortedTree 3 samplePayload = .ok samplePayloadSorted
      ∧ Represents samplePayloadSorted samplePayload
      ∧ sortedTree 3 samplePayloadSorted = .ok samplePayloadSorted
      ∧ SameTree samplePayload samplePayloadSorted := by
  have names : UniqueNames samplePayload := by decide
  have nests : samplePayload.nestsWithin 3 = true := by decide
  obtain ⟨w, hw, hrepresents, hagain, hothers⟩ := sortedTree_represents names nests
  obtain rfl : samplePayloadSorted = w := Except.ok.inj hw
  exact ⟨names, nests, hw, hrepresents, hagain, (hothers _).mp (hagain.trans hw.symm)⟩

/-! ## 3. What nests too deep -/

/-- An object in an object, so many times. -/
def nested : Nat → Json
  | 0 => .object []
  | n + 1 => .object [("a", nested n)]

theorem uniqueNames_nested (n : Nat) : UniqueNames (nested n) := by
  induction n with
  | zero => exact .object List.nodup_nil (List.forall_mem_nil _)
  | succ n ih => exact .object (List.nodup_singleton _) (List.forall_mem_singleton.mpr ih)

theorem nestsWithin_nested (n depth : Nat) : (nested n).nestsWithin depth = decide (n < depth) := by
  induction n generalizing depth with
  | zero => cases depth <;> rfl
  | succ n ih =>
    cases depth with
    | zero => rfl
    | succ depth =>
      rw [nested, nestsWithin, List.all_cons, ih, List.all_nil, Bool.and_true]
      exact decide_eq_decide.mpr (Nat.succ_lt_succ_iff).symm

/-- **Objects are sorted in each other** as deep as sorting may go, and no further. -/
theorem sortedTree_nested (depth n : Nat) : sortedTree depth (nested n)
    = if n < depth then .ok (nested n) else .error (.ofKind .recursion) := by
  have hsorted : (nested n).sorted = nested n := by
    induction n with
    | zero => rfl
    | succ n ih => rw [nested, sorted_object, List.map_singleton, sortedMember, ih]; rfl
  rw [sortedTree, nestsWithin_nested, hsorted]
  simp only [decide_eq_true_eq]

/-- There is no sorted value for an object in three thousand others, where a thousand calls may be
under way at a time. -/
theorem sortedTree_nested_tooDeep :
    UniqueNames (nested 3000)
      ∧ ∀ depth ≤ 1000, sortedTree depth (nested 3000) = .error (.ofKind .recursion) := by
  refine ⟨uniqueNames_nested 3000, fun depth hdepth => ?_⟩
  exact (sortedTree_nested depth 3000).trans (if_neg (by omega))

end Portcullis.Signature
