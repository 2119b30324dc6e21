/-
# Arguing about JSON values

A value is an atom, a list of values or an object whose members have values.  What holds of atoms,
and of containers whenever it holds of everything in them, holds of every value (`Json.byParts`).

In a value that a reader or a service handles, no object has two members of one name
(`Json.UniqueNames`).  For such objects looking a name up does not depend on the order of the
members, and setting or leaving out a member disturbs no other one.
-/
import Mathlib.Data.List.Nodup
import Portcullis.Json.Sorted

namespace Portcullis

namespace Json

/-! ## 1. Induction -/

/-- Whether a value holds no other values. -/
def isAtom : Json → Bool
  | .list _ | .object _ => false
  | _ => true

/-- **Induction on the parts of a value.** -/
@[elab_as_elim]
theorem byParts {motive : Json → Prop}
    (atom : ∀ v : Json, v.isAtom = true → motive v)
    (list : ∀ items : List Json, (∀ v ∈ items, motive v) → motive (.list items))
    (object : ∀ ms : Members, (∀ m ∈ ms, motive m.2) → motive (.object ms)) (v : Json) :
    motive v := by
  refine @Json.rec motive (fun items => ∀ v ∈ items, motive v) (fun ms => ∀ m ∈ ms, motive m.2)
    (fun m => motive m.2) (atom .null rfl) (fun b => atom (.bool b) rfl)
    (fun i => atom (.int i) rfl) (fun x => atom (.num x) rfl) (fun t => atom (.text t) rfl)
    list object ?_ ?_ ?_ ?_ (fun _ _ h => h) v
  · exact fun v h => absurd h List.not_mem_nil
  · intro w rest hw hrest v h
    rcases List.mem_cons.mp h with rfl | h
    · exact hw
    · exact hrest v h
  · exact fun m h => absurd h List.not_mem_nil
  · intro n rest hn hrest m h
    rcases List.mem_cons.mp h with rfl | h
    · exact hn
    · exact hrest m h

/-! ## 2. Sorting, item by item -/

theorem sortedItems_eq_map (items : List Json) : sortedItems items = items.map sorted := by
  induction items with
  | nil => rfl
  | cons v rest ih => rw [sortedItems, List.map_cons, ih]

/-- A member with its value sorted. -/
def sortedMember (m : Text × Json) : Text × Json := (m.1, sorted m.2)

theorem sortedMembers_eq_map (ms : Members) : sortedMembers ms = ms.map sortedMember := by
  induction ms with
  | nil => rfl
  | cons m rest ih => rw [sortedMembers, List.map_cons, ih]; rfl

@[simp] theorem sorted_list (items : List Json) :
    sorted (.list items) = .list (items.map sorted) := by
  rw [sorted, sortedItems_eq_map]

@[simp] theorem sorted_object (ms : Members) :
    sorted (.object ms) = .object (Members.sort (ms.map sortedMember)) := by
  rw [sorted, sortedMembers_eq_map]

theorem sorted_atom {v : Json} (h : v.isAtom = true) : sorted v = v := by
  cases v with
  | list items => exact absurd h Bool.false_ne_true
  | object ms => exact absurd h Bool.false_ne_true
  | _ => rfl

/-- Sorting the values of members leaves their names. -/
theorem map_fst_sortedMember (ms : Members) :
    (ms.map sortedMember).map Prod.fst = ms.map Prod.fst := by
  rw [List.map_map]
  rfl

/-! ## 3. Nesting -/

/-- A list nests as deep as before when its items do. -/
theorem nestsWithin_list_map {f : Json → Json} {items : List Json}
    (h : ∀ v ∈ items, ∀ n, (f v).nestsWithin n = v.nestsWithin n) (n : Nat) :
    (Json.list (items.map f)).nestsWithin n = (Json.list items).nestsWithin n := by
  cases n with
  | zero => rfl
  | succ n =>
    rw [nestsWithin, nestsWithin, List.all_map, Bool.eq_iff_iff, List.all_eq_true,
      List.all_eq_true]
    exact forall₂_congr fun v hv => by rw [Function.comp_apply, h v hv]

/-- An object nests as deep as before when the values of its members do. -/
theorem nestsWithin_object_map {f : Text × Json → Text × Json} {ms : Members}
    (h : ∀ m ∈ ms, ∀ n, (f m).2.nestsWithin n = m.2.nestsWithin n) (n : Nat) :
    (Json.object (ms.map f)).nestsWithin n = (Json.object ms).nestsWithin n := by
  cases n with
  | zero => rfl
  | succ n =>
    rw [nestsWithin, nestsWithin, List.all_map, Bool.eq_iff_iff, List.all_eq_true,
      List.all_eq_true]
    exact forall₂_congr fun m hm => by rw [Function.comp_apply, h m hm]

/-! ## 4. Names -/

/-- No object in the value has two members of one name. -/
inductive UniqueNames : Json → Prop
  | atom {v : Json} (h : v.isAtom = true) : UniqueNames v
  | list {items : List Json} (h : ∀ v ∈ items, UniqueNames v) : UniqueNames (.list items)
  | object {ms : Members} (names : (ms.map Prod.fst).Nodup) (h : ∀ m ∈ ms, UniqueNames m.2) :
      UniqueNames (.object ms)

theorem UniqueNames.of_list {items : List Json} (h : UniqueNames (.list items)) :
    ∀ v ∈ items, UniqueNames v := by
  cases h with
  | atom h => exact absurd h Bool.false_ne_true
  | list h => exact h

theorem UniqueNames.names {ms : Members} (h : UniqueNames (.object ms)) :
    (ms.map Prod.fst).Nodup := by
  cases h with
  | atom h => exact absurd h Bool.false_ne_true
  | object names h => exact names

theorem UniqueNames.of_object {ms : Members} (h : UniqueNames (.object ms)) :
    ∀ m ∈ ms, UniqueNames m.2 := by
  cases h with
  | atom h => exact absurd h Bool.false_ne_true
  | object names h => exact h

mutual

/-- Whether no object in the value has two members of one name. -/
def hasUniqueNames : Json → Bool
  | .list items => itemsHaveUniqueNames items
  | .object ms => decide (ms.map Prod.fst).Nodup && membersHaveUniqueNames ms
  | _ => true

/-- Whether no object in the items has two members of one name. -/
def itemsHaveUniqueNames : List Json → Bool
  | [] => true
  | v :: rest => hasUniqueNames v && itemsHaveUniqueNames rest

/-- Whether no object in the values of the members has two members of one name. -/
def membersHaveUniqueNames : Members → Bool
  | [] => true
  | (_, v) :: rest => hasUniqueNames v && membersHaveUniqueNames rest

end

theorem itemsHaveUniqueNames_iff (items : List Json) :
    itemsHaveUniqueNames items = true ↔ ∀ v ∈ items, hasUniqueNames v = true := by
  induction items with
  | nil => exact iff_of_true rfl (List.forall_mem_nil _)
  | cons v rest ih => rw [itemsHaveUniqueNames, Bool.and_eq_true, ih, List.forall_mem_cons]

theorem membersHaveUniqueNames_iff (ms : Members) :
    membersHaveUniqueNames ms = true ↔ ∀ m ∈ ms, hasUniqueNames m.2 = true := by
  induction ms with
  | nil => exact iff_of_true rfl (List.forall_mem_nil _)
  | cons m rest ih => rw [membersHaveUniqueNames, Bool.and_eq_true, ih, List.forall_mem_cons]

theorem hasUniqueNames_iff (v : Json) : hasUniqueNames v = true ↔ UniqueNames v := by
  induction v using byParts with
  | atom v h =>
    refine iff_of_true ?_ (.atom h)
    cases v with
    | list items => exact absurd h Bool.false_ne_true
    | object ms => exact absurd h Bool.false_ne_true
    | _ => rfl
  | list items ih =>
    rw [hasUniqueNames, itemsHaveUniqueNames_iff]
    constructor
    · exact fun h => .list fun v hv => (ih v hv).mp (h v hv)
    · exact fun h v hv => (ih v hv).mpr (h.of_list v hv)
  | object ms ih =>
    rw [hasUniqueNames, Bool.and_eq_true, decide_eq_true_eq, membersHaveUniqueNames_iff]
    constructor
    · exact fun h => .object h.1 fun m hm => (ih m hm).mp (h.2 m hm)
    · exact fun h => ⟨h.names, fun m hm => (ih m hm).mpr (h.of_object m hm)⟩

instance : DecidablePred UniqueNames := fun v => decidable_of_iff _ (hasUniqueNames_iff v)

end Json

/-! ## 5. Members -/

namespace Members

/-- A member with a value that is not null is there. -/
theorem get?_of_getD {ms : Members} {k : Text} {v : Json} (h : getD ms k = v)
    (hv : v.isNull = false) : get? k ms = some v := by
  rw [getD] at h
  cases hget : get? k ms with
  | none =>
    rw [hget] at h
    rw [← h] at hv
    cases hv
  | some w =>
    rw [hget] at h
    exact congrArg some h

/-- What is found under a name that only one member has. -/
theorem get?_eq_some_iff {ms : Members} (names : (ms.map Prod.fst).Nodup) (k : Text) (v : Json) :
    get? k ms = some v ↔ (k, v) ∈ ms := by
  induction ms with
  | nil => simp
  | cons m ms ih =>
    obtain ⟨l, w⟩ := m
    obtain ⟨hl, hrest⟩ := List.nodup_cons.mp names
    rw [get?_cons, List.mem_cons]
    by_cases h : l = k
    · subst h
      have hnot : (l, v) ∉ ms := fun hv => hl (List.mem_map.mpr ⟨(l, v), hv, rfl⟩)
      simp [hnot, eq_comm]
    · rw [if_neg h, ih hrest]
      simp [Ne.symm h]

/-- Setting a member keeps the other names, each once. -/
theorem map_fst_set (k : Text) (v : Json) (ms : Members) :
    (set k v ms).map Prod.fst = if k ∈ ms.map Prod.fst then ms.map Prod.fst
      else ms.map Prod.fst ++ [k] := by
  induction ms with
  | nil => simp [set]
  | cons m ms ih =>
    obtain ⟨l, w⟩ := m
    rw [set]
    by_cases h : l = k
    · simp [h]
    · have hk : k ≠ l := Ne.symm h
      rw [if_neg h, List.map_cons, ih]
      by_cases hmem : k ∈ ms.map Prod.fst
      · simp only [List.map_cons, List.mem_cons, hmem, or_true, if_true]
      · simp only [List.map_cons, List.mem_cons, hk, hmem, or_self, if_false, List.cons_append]

theorem nodup_set {ms : Members} (names : (ms.map Prod.fst).Nodup) (k : Text) (v : Json) :
    ((set k v ms).map Prod.fst).Nodup := by
  rw [map_fst_set]
  split
  · exact names
  · next h => exact List.nodup_append.mpr ⟨names, List.nodup_singleton k, by
      rintro a ha b hb rfl
      exact h (List.mem_singleton.mp hb ▸ ha)⟩

/-- A member of the members after setting one is that one or was there before. -/
theorem mem_set {ms : Members} {k : Text} {v : Json} {m : Text × Json} (h : m ∈ set k v ms) :
    m = (k, v) ∨ m ∈ ms := by
  induction ms with
  | nil => exact Or.inl (List.mem_singleton.mp h)
  | cons n ms ih =>
    obtain ⟨l, w⟩ := n
    rw [set] at h
    split at h
    · next hl =>
      rcases List.mem_cons.mp h with rfl | h
      · exact Or.inl (by rw [hl])
      · exact Or.inr (List.mem_cons_of_mem _ h)
    · rcases List.mem_cons.mp h with rfl | h
      · exact Or.inr List.mem_cons_self
      · exact (ih h).imp_right (List.mem_cons_of_mem _)

/-- What is set under a name does not show once that name is left out. -/
theorem erase_set (k : Text) (v : Json) (ms : Members) : erase k (set k v ms) = erase k ms := by
  induction ms with
  | nil => simp [set, erase]
  | cons m ms ih =>
    obtain ⟨l, w⟩ := m
    rw [set]
    split
    · next h => simp [erase, h]
    · next h =>
      have ih' : List.filter (fun m => decide (m.1 ≠ k)) (set k v ms)
          = List.filter (fun m => decide (m.1 ≠ k)) ms := ih
      rw [erase, List.filter_cons, ih', erase, List.filter_cons]

/-- Of two values set under one name the later one stays. -/
@[simp] theorem set_set (k : Text) (v w : Json) (ms : Members) :
    set k w (set k v ms) = set k w ms := by
  induction ms with
  | nil => simp [set]
  | cons m ms ih =>
    obtain ⟨l, u⟩ := m
    by_cases h : l = k
    · simp [set, h]
    · simp [set, h, ih]

/-- Leaving out a name leaves the others. -/
theorem get?_erase_of_ne {name other : Text} (h : other ≠ name) (ms : Members) :
    get? other (erase name ms) = get? other ms := by
  induction ms with
  | nil => rfl
  | cons m ms ih =>
    obtain ⟨l, u⟩ := m
    by_cases hl : l = name
    · have hne : ¬ name = other := Ne.symm h
      simpa [erase, get?_cons, hl, hne] using ih
    · by_cases hother : l = other
      · simp [erase, get?_cons, hother, h]
      · simpa [erase, get?_cons, hl, hother] using ih

@[simp] theorem erase_erase (k : Text) (ms : Members) : erase k (erase k ms) = erase k ms := by
  rw [erase, erase, List.filter_filter]
  simp

theorem nodup_erase {ms : Members} (names : (ms.map Prod.fst).Nodup) (k : Text) :
    ((erase k ms).map Prod.fst).Nodup :=
  names.sublist (List.Sublist.map _ List.filter_sublist)

/-- A name that is not there is set at the end. -/
theorem set_of_notMem {ms : Members} {k : Text} (h : k ∉ ms.map Prod.fst) (v : Json) :
    set k v ms = ms ++ [(k, v)] := by
  induction ms with
  | nil => rfl
  | cons m ms ih =>
    obtain ⟨l, w⟩ := m
    rw [List.map_cons, List.mem_cons, not_or] at h
    rw [set, if_neg (Ne.symm h.1), ih h.2]
    rfl

/-- Setting pairs of new and different names puts them at the end. -/
theorem setAll_eq_append {rest : Members} :
    ∀ {done : Members}, ((done ++ rest).map Prod.fst).Nodup → setAll done rest = done ++ rest := by
  induction rest with
  | nil => intro done _; exact (List.append_nil done).symm
  | cons m rest ih =>
    intro done h
    have hm : m.1 ∉ done.map Prod.fst := by
      intro hm
      rw [List.map_append, List.map_cons] at h
      exact (List.nodup_append.mp h).2.2 _ hm _ List.mem_cons_self rfl
    have happ : (done ++ [(m.1, m.2)]) ++ rest = done ++ m :: rest := by simp
    have hfold : setAll done (m :: rest) = setAll (set m.1 m.2 done) rest := rfl
    rw [hfold, set_of_notMem hm, ih (by rw [happ]; exact h), happ]

/-- Members of different names are the members of their own sequence of pairs. -/
theorem ofPairs_eq_self {ms : Members} (names : (ms.map Prod.fst).Nodup) : ofPairs ms = ms :=
  @setAll_eq_append ms [] names

end Members

namespace Json

theorem UniqueNames.erase {ms : Members} (h : UniqueNames (.object ms)) (k : Text) :
    UniqueNames (.object (Members.erase k ms)) :=
  .object (Members.nodup_erase h.names k) fun m hm => h.of_object m (List.mem_filter.mp hm).1

theorem UniqueNames.set {ms : Members} (h : UniqueNames (.object ms)) (k : Text) {v : Json}
    (hv : UniqueNames v) : UniqueNames (.object (Members.set k v ms)) := by
  refine .object (Members.nodup_set h.names k v) ?_
  intro m hm
  rcases Members.mem_set hm with rfl | hm
  · exact hv
  · exact h.of_object m hm

end Json

end Portcullis
