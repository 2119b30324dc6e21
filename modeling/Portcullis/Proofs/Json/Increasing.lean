/-
# The sorted form of a tree

Sorting answers with one value for each tree: the one in which the names of every object, at every
depth, increase by code point (`Json.Increasing`).  There is no other such value of the same tree.
Nothing is lost or moved on the way: what a path of names and positions leads to in a value, it
leads to in the sorted value, sorted; so lists are as long as they were and keep their order.

**Main statements.**  `increasing_sorted`, `Increasing.eq_sorted` and `at?_sorted`.
-/
import Portcullis.Proofs.Json.SameTree

namespace Portcullis

/-! ## 1. The order of names -/

namespace Text

/-- The text stands before the other one by the numbers of their code points. -/
def Before (s t : Text) : Prop := s.map CodePoint.val < t.map CodePoint.val

/-- Before a text stand those that it is not below or equal to. -/
theorem before_iff {s t : Text} : Before s t ↔ le t s = false := by
  induction s generalizing t with
  | nil => cases t <;> simp [Before, le]
  | cons a s ih =>
    cases t with
    | nil => simp [Before, le]
    | cons b t =>
      have htail : s.map CodePoint.val < t.map CodePoint.val ↔ le t s = false := ih
      rw [Before, List.map_cons, List.map_cons, List.cons_lt_cons_iff, htail, le,
        Bool.or_eq_false_iff, decide_eq_false_iff_not, Bool.and_eq_false_iff, beq_eq_false_iff_ne]
      constructor
      · rintro (h | ⟨h, hle⟩)
        · exact ⟨by omega, Or.inl (by omega)⟩
        · exact ⟨by omega, Or.inr hle⟩
      · rintro ⟨hnot, hne | hle⟩
        · exact Or.inl (by omega)
        · by_cases h : a.val < b.val
          · exact Or.inl h
          · exact Or.inr ⟨by omega, hle⟩

theorem Before.le {s t : Text} (h : Before s t) : le s t = true := by
  have htotal := le_total s t
  rwa [before_iff.mp h, Bool.or_false] at htotal

theorem Before.ne {s t : Text} (h : Before s t) : s ≠ t := by
  rintro rfl
  exact Bool.false_ne_true ((before_iff.mp h).symm.trans (le_refl s))

/-- Of two different texts in order the one stands before the other. -/
theorem before_of_le {s t : Text} (h : le s t = true) (hne : s ≠ t) : Before s t := by
  rw [before_iff, Bool.eq_false_iff]
  exact fun hle => hne (le_antisymm h hle)

end Text

namespace Members

/-- The names of members increase. -/
def Increasing (ms : Members) : Prop := (ms.map Prod.fst).Pairwise Text.Before

theorem Increasing.nodup {ms : Members} (h : Increasing ms) : (ms.map Prod.fst).Nodup :=
  List.Pairwise.imp Text.Before.ne h

theorem Increasing.inOrder {ms : Members} (h : Increasing ms) : InOrder ms :=
  (List.pairwise_map.mp h).imp Text.Before.le

/-- Members of different names are sorted to increasing ones. -/
theorem increasing_sort {ms : Members} (names : (ms.map Prod.fst).Nodup) :
    Increasing (sort ms) := by
  have hdifferent := List.pairwise_map.mp (nodup_sort names)
  exact List.pairwise_map.mpr
    (hdifferent.imp₂ (fun _ _ hne hle => Text.before_of_le hle hne) (sort_inOrder ms))

/-- Increasing members are sorted already. -/
theorem Increasing.sort_eq {ms : Members} (h : Increasing ms) : sort ms = ms :=
  (sort_inOrder ms).eq_of_perm h.inOrder (nodup_sort h.nodup) (sort_perm ms)

end Members

namespace Json

/-! ## 2. Increasing names at every depth -/

/-- The names of every object in the value increase. -/
inductive Increasing : Json → Prop
  | atom {v : Json} (h : v.isAtom = true) : Increasing v
  | list {items : List Json} (h : ∀ v ∈ items, Increasing v) : Increasing (.list items)
  | object {ms : Members} (names : ms.Increasing) (h : ∀ m ∈ ms, Increasing m.2) :
      Increasing (.object ms)

/-- **Sorting makes the names increase**, in lists and in objects at every depth. -/
theorem increasing_sorted {v : Json} (h : UniqueNames v) : Increasing v.sorted := by
  induction h with
  | atom h =>
    rw [sorted_atom h]
    exact .atom h
  | list _ ih =>
    rw [sorted_list]
    exact .list (List.forall_mem_map.mpr ih)
  | @object ms names _ ih =>
    rw [sorted_object]
    refine .object (Members.increasing_sort ?_) fun m hm => ?_
    · rwa [map_fst_sortedMember]
    · obtain ⟨n, hn, rfl⟩ := List.mem_map.mp ((Members.sort_perm _).mem_iff.mp hm)
      exact ih n hn

/-- A value whose names increase is sorted already. -/
theorem Increasing.sorted_eq {v : Json} (h : Increasing v) : v.sorted = v := by
  induction h with
  | atom h => exact sorted_atom h
  | list _ ih => rw [sorted_list, List.map_congr_left ih, List.map_id']
  | @object ms names _ ih =>
    have hmember : ∀ m ∈ ms, sortedMember m = m := fun m hm => Prod.ext rfl (ih m hm)
    rw [sorted_object, List.map_congr_left hmember, List.map_id', names.sort_eq]

/-- Sorting again changes nothing. -/
theorem sorted_sorted {v : Json} (h : UniqueNames v) : v.sorted.sorted = v.sorted :=
  (increasing_sorted h).sorted_eq

/-- Sorting changes nothing but the order of members. -/
theorem sameTree_sorted {v : Json} (h : UniqueNames v) : SameTree v v.sorted :=
  sameTree_of_sorted_eq (sorted_sorted h).symm

/-- **There is one value of a tree whose names increase.** -/
theorem Increasing.eq_sorted {v w : Json} (hw : Increasing w) (hv : UniqueNames v)
    (h : SameTree v w) : w = v.sorted := by
  rw [h.sorted_eq hv, hw.sorted_eq]

/-- An object nests as deep in every order of its members. -/
theorem nestsWithin_sort (ms : Members) (n : Nat) :
    (Json.object (Members.sort ms)).nestsWithin n = (Json.object ms).nestsWithin n := by
  cases n with
  | zero => rfl
  | succ n => rw [nestsWithin, nestsWithin, (Members.sort_perm ms).all_eq]

/-- Sorting changes nothing in how a value nests. -/
theorem nestsWithin_sorted {v : Json} {n : Nat} : v.sorted.nestsWithin n = v.nestsWithin n := by
  induction v using byParts generalizing n with
  | atom v h => rw [sorted_atom h]
  | list items ih =>
    rw [sorted_list]
    exact nestsWithin_list_map (fun v hv _ => ih v hv) n
  | object ms ih =>
    rw [sorted_object, nestsWithin_sort]
    exact nestsWithin_object_map (fun m hm _ => ih m hm) n

/-! ## 3. Paths -/

/-- A step from a value to one in it: to the member of a name or to the item at a position. -/
inductive Step where
  | name (k : Text)
  | position (i : Nat)

/-- What is one step away, if it is there. -/
def child? : Json → Step → Option Json
  | .list items, .position i => items[i]?
  | .object ms, .name k => Members.get? k ms
  | _, _ => none

/-- What a path leads to, if it is there. -/
def at? (v : Json) (path : List Step) : Option Json := path.foldlM child? v

theorem at?_cons (v : Json) (step : Step) (path : List Step) :
    v.at? (step :: path) = (v.child? step).bind (·.at? path) :=
  List.foldlM_cons

/-- Nothing is one step away from an atom. -/
theorem child?_atom {v : Json} (h : v.isAtom = true) (step : Step) : v.child? step = none := by
  cases v with
  | list items => exact absurd h Bool.false_ne_true
  | object ms => exact absurd h Bool.false_ne_true
  | _ => rfl

/-- A value that is one step away has unique names as well. -/
theorem UniqueNames.child? {v w : Json} (h : UniqueNames v) {step : Step}
    (hw : v.child? step = some w) : UniqueNames w := by
  cases h with
  | atom h => cases (child?_atom h step).symm.trans hw
  | list h =>
    cases step with
    | name k => cases hw
    | position i => exact h w (List.mem_of_getElem? hw)
  | object names h =>
    cases step with
    | name k => exact h _ ((Members.get?_eq_some_iff names k w).mp hw)
    | position i => cases hw

/-- Under a name stands in sorted members what stood under it, sorted. -/
theorem get?_sort_map {ms : Members} (names : (ms.map Prod.fst).Nodup) (k : Text) :
    Members.get? k (Members.sort (ms.map sortedMember)) = (Members.get? k ms).map sorted := by
  have hnames : ((ms.map sortedMember).map Prod.fst).Nodup := by rwa [map_fst_sortedMember]
  ext w
  rw [Members.get?_eq_some_iff (Members.nodup_sort hnames), (Members.sort_perm _).mem_iff,
    List.mem_map, Option.map_eq_some_iff]
  constructor
  · rintro ⟨⟨l, v⟩, hmem, heq⟩
    obtain ⟨rfl, rfl⟩ := Prod.mk.inj heq
    exact ⟨v, (Members.get?_eq_some_iff names l v).mpr hmem, rfl⟩
  · rintro ⟨v, hget, rfl⟩
    exact ⟨(k, v), (Members.get?_eq_some_iff names k v).mp hget, rfl⟩

theorem child?_sorted {v : Json} (h : UniqueNames v) (step : Step) :
    v.sorted.child? step = (v.child? step).map sorted := by
  cases h with
  | atom h =>
    rw [sorted_atom h, child?_atom h]
    rfl
  | list h =>
    rw [sorted_list]
    cases step with
    | name k => rfl
    | position i => exact List.getElem?_map
  | object names h =>
    rw [sorted_object]
    cases step with
    | name k => exact get?_sort_map names k
    | position i => rfl

/-- **Every path leads to what it led to**, sorted. -/
theorem at?_sorted {v : Json} (h : UniqueNames v) (path : List Step) :
    v.sorted.at? path = (v.at? path).map sorted := by
  induction path generalizing v with
  | nil => rfl
  | cons step path ih =>
    rw [at?_cons, at?_cons, child?_sorted h]
    cases hchild : v.child? step with
    | none => rfl
    | some w => exact ih (h.child? hchild)

end Json

end Portcullis
