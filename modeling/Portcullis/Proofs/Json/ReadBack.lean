/-
# What a value is read back as

Between writing and reading, the texts and names of a value are heard in the alphabet it was written
in (`Json.heard`), and of members that have then one name the later value stands in the earlier
place (`Json.merged`).  Nothing else is changed (`Json.readBack`): neither the nesting, nor an atom
that is no text.

**Main statement.**  `readBack_eq_self`: a value without pairs of surrogates whose names are unique
is read back as it is.
-/
import Portcullis.Proofs.Json.Quoting
import Portcullis.Proofs.Json.Writable

namespace Portcullis

namespace Json

/-- A function that leaves every item leaves the list. -/
theorem map_eq_self {α : Type} {f : α → α} {as : List α} (h : ∀ a ∈ as, f a = a) :
    as.map f = as := (List.map_congr_left h).trans (List.map_id' as)

/-! ## 1. Texts and names -/

mutual

/-- The value with its texts and names as they are heard. -/
def heard (a : Alphabet) : Json → Json
  | .text t => .text (a.heard t)
  | .list items => .list (heardItems a items)
  | .object ms => .object (heardMembers a ms)
  | v => v

/-- Each item as it is heard. -/
def heardItems (a : Alphabet) : List Json → List Json
  | [] => []
  | v :: rest => heard a v :: heardItems a rest

/-- Each member as it is heard. -/
def heardMembers (a : Alphabet) : Members → Members
  | [] => []
  | (k, v) :: rest => (a.heard k, heard a v) :: heardMembers a rest

end

/-- A member as it is heard. -/
def heardMember (a : Alphabet) (m : Text × Json) : Text × Json := (a.heard m.1, heard a m.2)

theorem heard_list (a : Alphabet) (items : List Json) :
    heard a (.list items) = .list (items.map (heard a)) := by
  have hitems : ∀ items : List Json, heardItems a items = items.map (heard a) := by
    intro items
    induction items with
    | nil => rfl
    | cons v rest ih => rw [heardItems, List.map_cons, ih]
  rw [heard, hitems]

theorem heard_object (a : Alphabet) (ms : Members) :
    heard a (.object ms) = .object (ms.map (heardMember a)) := by
  have hmembers : ∀ ms : Members, heardMembers a ms = ms.map (heardMember a) := by
    intro ms
    induction ms with
    | nil => rfl
    | cons m rest ih => rw [heardMembers, List.map_cons, ih]; rfl
  rw [heard, hmembers]

/-- An atom stays an atom. -/
theorem isAtom_heard (a : Alphabet) (v : Json) : (v.heard a).isAtom = v.isAtom := by
  cases v <;> rfl

/-! ## 2. Names that meet -/

mutual

/-- The value with one member for each name of an object. -/
def merged : Json → Json
  | .list items => .list (mergedItems items)
  | .object ms => .object (Members.ofPairs (mergedMembers ms))
  | v => v

/-- Each item merged. -/
def mergedItems : List Json → List Json
  | [] => []
  | v :: rest => merged v :: mergedItems rest

/-- The value of each member merged. -/
def mergedMembers : Members → Members
  | [] => []
  | (k, v) :: rest => (k, merged v) :: mergedMembers rest

end

/-- A member with its value merged. -/
def mergedMember (m : Text × Json) : Text × Json := (m.1, merged m.2)

theorem merged_list (items : List Json) : merged (.list items) = .list (items.map merged) := by
  have hitems : ∀ items : List Json, mergedItems items = items.map merged := by
    intro items
    induction items with
    | nil => rfl
    | cons v rest ih => rw [mergedItems, List.map_cons, ih]
  rw [merged, hitems]

theorem merged_object (ms : Members) :
    merged (.object ms) = .object (Members.ofPairs (ms.map mergedMember)) := by
  have hmembers : ∀ ms : Members, mergedMembers ms = ms.map mergedMember := by
    intro ms
    induction ms with
    | nil => rfl
    | cons m rest ih => rw [mergedMembers, List.map_cons, ih]; rfl
  rw [merged, hmembers]

theorem merged_atom {v : Json} (h : v.isAtom = true) : merged v = v := by
  cases v with
  | list items => exact absurd h Bool.false_ne_true
  | object ms => exact absurd h Bool.false_ne_true
  | _ => rfl

/-- Where names are unique there is nothing to merge. -/
theorem merged_eq_self {v : Json} (h : UniqueNames v) : merged v = v := by
  induction h with
  | atom h => exact merged_atom h
  | list _ ih => rw [merged_list, map_eq_self ih]
  | object names _ ih =>
    have hsame : ∀ m ∈ _, mergedMember m = m := fun m hm => Prod.ext rfl (ih m hm)
    rw [merged_object, map_eq_self hsame, Members.ofPairs_eq_self names]

/-! ## 3. Both -/

/-- What a value is read back as when it is written in an alphabet. -/
def readBack (a : Alphabet) (v : Json) : Json := (v.heard a).merged

theorem readBack_text (t : Text) : readBack .ascii (.text t) = .text t.joined := rfl

end Json

/-- What the members of an object are read back as. -/
def Members.readBack (a : Json.Alphabet) (ms : Members) : Members :=
  ofPairs (ms.map fun m => (a.heard m.1, m.2.readBack a))

namespace Json

theorem readBack_object (a : Alphabet) (ms : Members) :
    readBack a (.object ms) = .object (ms.readBack a) := by
  rw [readBack, heard_object, merged_object, List.map_map]
  rfl

/-- No text and no name in the value holds a pair of surrogates. -/
inductive Unpaired : Json → Prop
  | atom {v : Json} (h : v.isAtom = true) (text : ∀ t, v = .text t → Text.Unpaired t) : Unpaired v
  | list {items : List Json} (h : ∀ v ∈ items, Unpaired v) : Unpaired (.list items)
  | object {ms : Members} (names : ∀ m ∈ ms, Text.Unpaired m.1) (h : ∀ m ∈ ms, Unpaired m.2) :
      Unpaired (.object ms)

/-- What is writable holds no surrogates, and so no pairs of them. -/
theorem Writable.unpaired {n : Nat} {v : Json} (h : Writable n v) : Unpaired v := by
  induction h with
  | atom hv fits => exact .atom hv fun t ht => (fits.whole t ht).unpaired
  | list _ ih => exact .list ih
  | object names _ ih => exact .object (fun m hm => (names m hm).unpaired) ih

theorem heard_eq_self (a : Alphabet) {v : Json} (h : Unpaired v) : v.heard a = v := by
  induction h with
  | @atom v hv text =>
    cases v with
    | text t => rw [heard, a.heard_of_unpaired (text t rfl)]
    | list items => exact absurd hv Bool.false_ne_true
    | object ms => exact absurd hv Bool.false_ne_true
    | _ => rfl
  | list _ ih => rw [heard_list, map_eq_self ih]
  | object names _ ih =>
    have hsame : ∀ m ∈ _, heardMember a m = m := fun m hm =>
      Prod.ext (a.heard_of_unpaired (names m hm)) (ih m hm)
    rw [heard_object, map_eq_self hsame]

/-- **A value without pairs whose names are unique is read back as it is.** -/
theorem readBack_eq_self (a : Alphabet) {v : Json} (h : Unpaired v) (names : UniqueNames v) :
    v.readBack a = v := by
  rw [readBack, heard_eq_self a h, merged_eq_self names]

/-- Hearing a value changes nothing in how it nests. -/
theorem nestsWithin_heard (a : Alphabet) {n : Nat} {v : Json} :
    (v.heard a).nestsWithin n = v.nestsWithin n := by
  induction v using byParts generalizing n with
  | atom v h =>
    cases v with
    | list items => exact absurd h Bool.false_ne_true
    | object ms => exact absurd h Bool.false_ne_true
    | _ => cases n <;> rfl
  | list items ih =>
    rw [heard_list]
    exact nestsWithin_list_map (fun v hv _ => ih v hv) n
  | object ms ih =>
    rw [heard_object]
    exact nestsWithin_object_map (fun m hm _ => ih m hm) n

end Json

/-! ## 4. Members under a name -/

namespace Members

/-- Members without pairs are read back as they are. -/
theorem readBack_eq_self (a : Json.Alphabet) {ms : Members} (h : Json.Unpaired (.object ms))
    (names : Json.UniqueNames (.object ms)) : ms.readBack a = ms := by
  have hback := Json.readBack_eq_self a h names
  rw [Json.readBack_object] at hback
  exact Json.object.inj hback

theorem get?_append (name : Text) (ms ns : Members) :
    get? name (ms ++ ns) = (get? name ms).or (get? name ns) := by
  induction ms with
  | nil => rfl
  | cons m ms ih =>
    obtain ⟨k, v⟩ := m
    rw [List.cons_append, get?_cons, get?_cons, ih]
    split
    · rfl
    · rfl

/-- Of several values set under a name the last one is found. -/
theorem get?_setAll (name : Text) (pairs ms : Members) :
    get? name (setAll ms pairs) = (get? name pairs.reverse).or (get? name ms) := by
  induction pairs generalizing ms with
  | nil => rfl
  | cons m pairs ih =>
    obtain ⟨k, v⟩ := m
    have hset : get? name (set k v ms) = (get? name [(k, v)]).or (get? name ms) := by
      rw [get?_cons]
      by_cases h : k = name
      · rw [h, get?_set_self, if_pos rfl]
        rfl
      · rw [get?_set_of_ne (Ne.symm h), if_neg h]
        rfl
    have hfold : setAll ms ((k, v) :: pairs) = setAll (set k v ms) pairs := rfl
    rw [hfold, ih, hset, List.reverse_cons, get?_append, Option.or_assoc]

/-- A name that is read as itself, and that no other name is read as, keeps its value. -/
theorem get?_reverse_map {ms : Members} (names : (ms.map Prod.fst).Nodup) {name : Text}
    {f : Text → Text} (hf : ∀ k, f k = name ↔ k = name) (g : Json → Json) :
    get? name (ms.map fun m => (f m.1, g m.2)).reverse = (get? name ms).map g := by
  induction ms with
  | nil => rfl
  | cons m ms ih =>
    obtain ⟨k, v⟩ := m
    obtain ⟨hk, hnames⟩ := List.nodup_cons.mp names
    rw [List.map_cons, List.reverse_cons, get?_append, ih hnames, get?_cons, get?_cons, get?_nil]
    by_cases h : k = name
    · have hnone : get? name ms = none := by
        rw [Option.eq_none_iff_forall_ne_some]
        intro w hw
        exact hk (h ▸ List.mem_map.mpr ⟨_, (get?_eq_some_iff hnames name w).mp hw, rfl⟩)
      rw [hnone, if_pos h, if_pos ((hf k).mpr h)]
      rfl
    · rw [if_neg h, if_neg (mt (hf k).mp h), Option.or_none]

/-- **What is read back under a name without surrogates** is what was written under it. -/
theorem get?_readBack {ms : Members} (names : (ms.map Prod.fst).Nodup) {name : Text}
    (hname : ∀ c ∈ name, c.val < 0xD800) :
    get? name (ms.readBack .ascii) = (get? name ms).map (Json.readBack .ascii) := by
  have hset : ms.readBack .ascii
      = setAll [] (ms.map fun m => (Text.joined m.1, m.2.readBack .ascii)) := rfl
  rw [hset, get?_setAll, get?_reverse_map names (Text.joined_eq_iff hname), get?_nil,
    Option.or_none]

end Members

end Portcullis
