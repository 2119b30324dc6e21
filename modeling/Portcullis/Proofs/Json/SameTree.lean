/-
# Values up to the order of their members

Two values are the same tree (`Json.SameTree`) if one becomes the other by putting the members of
its objects, at any depth, in another order.  The order of a list counts, and so does the kind of
an atom: `true`, `1` and `1.0` are three different values.

**Main statement.**  Sorting the members picks one value for each tree: values whose names are
unique are the same tree exactly when they are equal after sorting (`sameTree_iff_sorted_eq`).
-/
import Mathlib.Data.List.Perm.Basic
import Portcullis.Proofs.Json.Structure

namespace Portcullis

/-! ## 1. Sorting members -/

namespace Members

theorem insertSorted_perm (m : Text × Json) (ms : Members) :
    (insertSorted m ms).Perm (m :: ms) := by
  induction ms with
  | nil => exact List.Perm.refl _
  | cons n ms ih =>
    rw [insertSorted]
    split
    · exact List.Perm.refl _
    · exact (ih.cons n).trans (List.Perm.swap m n ms)

/-- Sorting loses and doubles no member. -/
theorem sort_perm (ms : Members) : (sort ms).Perm ms := by
  induction ms with
  | nil => exact List.Perm.refl _
  | cons m ms ih => exact (insertSorted_perm m (sort ms)).trans (ih.cons m)

/-- The names of members in order. -/
def InOrder (ms : Members) : Prop := ms.Pairwise fun m n => Text.le m.1 n.1 = true

theorem insertSorted_inOrder {ms : Members} (h : InOrder ms) (m : Text × Json) :
    InOrder (insertSorted m ms) := by
  induction ms with
  | nil => exact List.pairwise_singleton _ _
  | cons n ms ih =>
    obtain ⟨hn, hms⟩ := List.pairwise_cons.mp h
    rw [insertSorted]
    split
    · next hle =>
      refine List.pairwise_cons.mpr ⟨?_, h⟩
      intro x hx
      rcases List.mem_cons.mp hx with rfl | hx
      · exact hle
      · exact Text.le_trans hle (hn x hx)
    · next hle =>
      have hnm : Text.le n.1 m.1 = true := by
        rcases Bool.or_eq_true_iff.mp (Text.le_total m.1 n.1) with h | h
        · exact absurd h hle
        · exact h
      refine List.pairwise_cons.mpr ⟨?_, ih hms⟩
      intro x hx
      rcases List.mem_cons.mp ((insertSorted_perm m ms).mem_iff.mp hx) with rfl | hx
      · exact hnm
      · exact hn x hx

theorem sort_inOrder (ms : Members) : InOrder (sort ms) := by
  induction ms with
  | nil => exact List.Pairwise.nil
  | cons m ms ih => exact insertSorted_inOrder ih m

theorem nodup_sort {ms : Members} (names : (ms.map Prod.fst).Nodup) :
    ((sort ms).map Prod.fst).Nodup :=
  ((sort_perm ms).map Prod.fst).nodup_iff.mpr names

/-- Members of different names are in order in one way. -/
theorem InOrder.eq_of_perm {ms ns : Members} (hms : InOrder ms) (hns : InOrder ns)
    (names : (ms.map Prod.fst).Nodup) (h : ms.Perm ns) : ms = ns := by
  refine h.eq_of_pairwise ?_ hms hns
  intro m n hm hn hmn hnm
  exact List.inj_on_of_nodup_map names hm (h.mem_iff.mpr hn) (Text.le_antisymm hmn hnm)

/-- **Members of different names have one order.** -/
theorem sort_eq_of_perm {ms ns : Members} (names : (ms.map Prod.fst).Nodup) (h : ms.Perm ns) :
    sort ms = sort ns := by
  have hperm : (sort ms).Perm (sort ns) := (sort_perm ms).trans (h.trans (sort_perm ns).symm)
  exact (sort_inOrder ms).eq_of_perm (sort_inOrder ns) (nodup_sort names) hperm

end Members

namespace Json

/-! ## 2. The same tree -/

mutual

/-- The values differ at most in the order of members. -/
inductive SameTree : Json → Json → Prop
  | atom {v : Json} (h : v.isAtom = true) : SameTree v v
  | list {as bs : List Json} (h : List.Forall₂ SameTree as bs) : SameTree (.list as) (.list bs)
  | object {as bs' bs : Members} (h : List.Forall₂ SameMember as bs') (order : bs'.Perm bs) :
      SameTree (.object as) (.object bs)

/-- The members have one name, and their values differ at most in the order of members. -/
inductive SameMember : Text × Json → Text × Json → Prop
  | value (k : Text) {a b : Json} (h : SameTree a b) : SameMember (k, a) (k, b)

end

theorem SameMember.name {m n : Text × Json} (h : SameMember m n) : m.1 = n.1 := by
  cases h with
  | value k h => rfl

theorem SameMember.tree {m n : Text × Json} (h : SameMember m n) : SameTree m.2 n.2 := by
  cases h with
  | value k h => exact h

/-- Members in one order that are the same one by one have the same names. -/
theorem map_fst_eq_of_forall₂ {as bs : Members} (h : List.Forall₂ SameMember as bs) :
    as.map Prod.fst = bs.map Prod.fst := by
  induction h with
  | nil => rfl
  | cons hm _ ih => rw [List.map_cons, List.map_cons, hm.name, ih]

/-- Pointwise related lists have equal images under functions that relate. -/
theorem map_eq_map_of_forall₂ {α β : Type} {R : α → α → Prop} {f : α → β} {as bs : List α}
    (h : List.Forall₂ R as bs) (hf : ∀ a ∈ as, ∀ b, R a b → f a = f b) :
    as.map f = bs.map f := by
  induction h with
  | nil => rfl
  | cons hab _ ih =>
    rw [List.map_cons, List.map_cons, hf _ List.mem_cons_self _ hab,
      ih fun a ha => hf a (List.mem_cons_of_mem _ ha)]

/-- Lists with equal images are related pointwise where the images tell. -/
theorem forall₂_of_map_eq_map {α β : Type} {R : α → α → Prop} {f : α → β} {as bs : List α}
    (h : as.map f = bs.map f) (hf : ∀ a ∈ as, ∀ b, f a = f b → R a b) :
    List.Forall₂ R as bs := by
  induction as generalizing bs with
  | nil =>
    rw [List.map_eq_nil_iff.mp h.symm]
    exact List.Forall₂.nil
  | cons a as ih =>
    cases bs with
    | nil => exact absurd h (by simp)
    | cons b bs =>
      obtain ⟨hab, hrest⟩ := List.cons.inj h
      exact List.Forall₂.cons (hf a List.mem_cons_self b hab)
        (ih hrest fun x hx => hf x (List.mem_cons_of_mem _ hx))

/-! ## 3. Sorting decides -/

/-- Sorting makes equal whatever differs only in the order of members. -/
theorem SameTree.sorted_eq {u v : Json} (hu : UniqueNames u) (h : SameTree u v) :
    sorted u = sorted v := by
  induction hu generalizing v with
  | atom ha =>
    cases h with
    | atom _ => rfl
    | list _ => exact absurd ha Bool.false_ne_true
    | object _ _ => exact absurd ha Bool.false_ne_true
  | list _ ih =>
    cases h with
    | atom _ => rfl
    | list h => rw [sorted_list, sorted_list, map_eq_map_of_forall₂ h fun a ha b hab => ih a ha hab]
  | @object as names _ ih =>
    cases h with
    | atom _ => rfl
    | @object _ bs' bs h order =>
      have heq : as.map sortedMember = bs'.map sortedMember :=
        map_eq_map_of_forall₂ h fun a ha b hab =>
          congrArg₂ Prod.mk hab.name (ih a ha hab.tree)
      have names' : ((bs'.map sortedMember).map Prod.fst).Nodup := by
        rw [map_fst_sortedMember, ← map_fst_eq_of_forall₂ h]
        exact names
      rw [sorted_object, sorted_object, heq,
        Members.sort_eq_of_perm names' (order.map sortedMember)]

/-- Values that are equal after sorting differ only in the order of members. -/
theorem sameTree_of_sorted_eq {u v : Json} (h : sorted u = sorted v) : SameTree u v := by
  induction u using byParts generalizing v with
  | atom u ha =>
    rw [sorted_atom ha] at h
    cases v with
    | list bs => rw [h, sorted_list] at ha; exact absurd ha Bool.false_ne_true
    | object bs => rw [h, sorted_object] at ha; exact absurd ha Bool.false_ne_true
    | _ => rw [h]; exact .atom rfl
  | list as ih =>
    cases v with
    | list bs =>
      rw [sorted_list, sorted_list, Json.list.injEq] at h
      exact .list (forall₂_of_map_eq_map h fun a ha b hab => ih a ha hab)
    | _ => simp [sorted] at h
  | object as ih =>
    cases v with
    | object bs =>
      rw [sorted_object, sorted_object, Json.object.injEq] at h
      -- equal after sorting means: a permutation of each other once the values are sorted
      have hperm : (as.map sortedMember).Perm (bs.map sortedMember) :=
        (Members.sort_perm _).symm.trans (h ▸ Members.sort_perm _)
      have himage : List.Forall₂ (fun x b => x = sortedMember b) (bs.map sortedMember) bs :=
        List.forall₂_map_left_iff.mpr (List.forall₂_same.mpr fun _ _ => rfl)
      obtain ⟨bs', hbs', order⟩ := List.perm_comp_forall₂ hperm himage
      have heq : as.map sortedMember = bs'.map sortedMember := by
        rw [← List.forall₂_eq_eq_eq]
        exact List.forall₂_map_right_iff.mpr hbs'
      refine .object (forall₂_of_map_eq_map heq ?_) order
      rintro ⟨k, a⟩ ha ⟨l, b⟩ hab
      obtain ⟨hk, hv⟩ := Prod.mk.inj hab
      have hk' : k = l := hk
      subst hk'
      exact .value k (ih (k, a) ha hv)
    | _ => simp [sorted] at h

theorem SameTree.refl (v : Json) : SameTree v v := sameTree_of_sorted_eq rfl

/-- **Sorting picks one value for each tree.** -/
theorem sameTree_iff_sorted_eq {u v : Json} (hu : UniqueNames u) :
    SameTree u v ↔ sorted u = sorted v :=
  ⟨SameTree.sorted_eq hu, sameTree_of_sorted_eq⟩

/-- Sorting neither joins nor parts names. -/
theorem uniqueNames_sorted_iff {v : Json} : UniqueNames v.sorted ↔ UniqueNames v := by
  induction v using byParts with
  | atom v h => rw [sorted_atom h]
  | list items ih =>
    rw [sorted_list]
    constructor
    · intro h
      exact .list fun v hv => (ih v hv).mp (h.of_list _ (List.mem_map_of_mem hv))
    · intro h
      refine .list ?_
      intro w hw
      obtain ⟨v, hv, rfl⟩ := List.mem_map.mp hw
      exact (ih v hv).mpr (h.of_list v hv)
  | object ms ih =>
    have order := Members.sort_perm (ms.map sortedMember)
    have names : ((Members.sort (ms.map sortedMember)).map Prod.fst).Perm (ms.map Prod.fst) := by
      rw [← map_fst_sortedMember ms]
      exact order.map _
    rw [sorted_object]
    constructor
    · intro h
      refine .object (names.nodup_iff.mp h.names) fun m hm => (ih m hm).mp ?_
      exact h.of_object (sortedMember m) (order.mem_iff.mpr (List.mem_map_of_mem hm))
    · intro h
      refine .object (names.nodup_iff.mpr h.names) ?_
      intro n hn
      obtain ⟨m, hm, rfl⟩ := List.mem_map.mp (order.mem_iff.mp hn)
      exact (ih m hm).mpr (h.of_object m hm)

/-- The same tree has unique names in every order of members. -/
theorem SameTree.uniqueNames {u v : Json} (hu : UniqueNames u) (h : SameTree u v) :
    UniqueNames v := by
  rw [← uniqueNames_sorted_iff, ← h.sorted_eq hu, uniqueNames_sorted_iff]
  exact hu

/-! ## 4. Members of the same tree -/

/-- The same tree as an object is an object. -/
theorem SameTree.exists_object {ms : Members} {v : Json} (h : SameTree (.object ms) v) :
    ∃ ns, v = .object ns := by
  cases h with
  | atom _ => exact ⟨ms, rfl⟩
  | object _ _ => exact ⟨_, rfl⟩

/-- What is related to something in a list is in the other one. -/
theorem exists_of_forall₂ {α β : Type} {R : α → β → Prop} {as : List α} {bs : List β}
    (h : List.Forall₂ R as bs) {a : α} (ha : a ∈ as) : ∃ b ∈ bs, R a b := by
  induction h with
  | nil => exact absurd ha List.not_mem_nil
  | cons hab _ ih =>
    rcases List.mem_cons.mp ha with rfl | ha
    · exact ⟨_, List.mem_cons_self, hab⟩
    · obtain ⟨b, hb, hR⟩ := ih ha
      exact ⟨b, List.mem_cons_of_mem _ hb, hR⟩

/-- What is found under a name is found, the same tree, in every order of the members. -/
theorem SameTree.get? {ms ns : Members} (h : SameTree (.object ms) (.object ns))
    (names : UniqueNames (.object ms)) {k : Text} {v : Json} (hk : Members.get? k ms = some v) :
    ∃ w, Members.get? k ns = some w ∧ SameTree v w := by
  have hmem := (Members.get?_eq_some_iff names.names k _).mp hk
  have hfound := Members.get?_eq_some_iff (h.uniqueNames names).names k
  cases h with
  | atom h => exact absurd h Bool.false_ne_true
  | object h order =>
    obtain ⟨n, hn, hsame⟩ := exists_of_forall₂ h hmem
    cases hsame with
    | value _ htree => exact ⟨_, (hfound _).mpr (order.mem_iff.mp hn), htree⟩

/-- A text that is found under a name is found in every order of the members. -/
theorem SameTree.get?_text {ms ns : Members} (h : SameTree (.object ms) (.object ns))
    (names : UniqueNames (.object ms)) {k t : Text} (hk : Members.get? k ms = some (.text t)) :
    Members.get? k ns = some (.text t) := by
  obtain ⟨w, hw, htree⟩ := h.get? names hk
  cases htree with
  | atom _ => exact hw

theorem forall₂_erase {as bs : Members} (h : List.Forall₂ SameMember as bs) (k : Text) :
    List.Forall₂ SameMember (Members.erase k as) (Members.erase k bs) := by
  induction h with
  | nil => exact List.Forall₂.nil
  | @cons a b as bs hab _ ih =>
    have hname : a.1 = b.1 := hab.name
    rw [Members.erase, Members.erase, List.filter_cons, List.filter_cons, ← hname]
    split
    · exact List.Forall₂.cons hab ih
    · exact ih

/-- Leaving out a name at the top of the same tree leaves the same tree. -/
theorem SameTree.erase {as bs : Members} (h : SameTree (.object as) (.object bs)) (k : Text) :
    SameTree (.object (Members.erase k as)) (.object (Members.erase k bs)) := by
  cases h with
  | atom h => exact absurd h Bool.false_ne_true
  | object h order => exact .object (forall₂_erase h k) (order.filter _)

end Json

end Portcullis
