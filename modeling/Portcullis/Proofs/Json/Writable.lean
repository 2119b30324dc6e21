/-
# Values that have a text

A value is writable to a depth (`Json.Writable`) when its lists and objects nest no deeper, its
numbers are finite, its integers not too long, and its texts and names hold no surrogate.  These
are the values that have octets, and none of this depends on the order of the members.

**Main statements.**  `Writable.sorted_iff`, `Writable.congr` for values that are the same tree, and
`octets_eq_ok_iff`.
-/
import Portcullis.Json.Octets
import Portcullis.Proofs.Json.Number
import Portcullis.Proofs.Json.Quoting
import Portcullis.Proofs.Json.SameTree

namespace Portcullis

namespace Json

/-! ## 1. The predicate -/

/-- What an atom has to satisfy: a number is finite, an integer is not too long, and a text holds no
surrogate. -/
structure AtomFits (v : Json) : Prop where
  finite : v.isFinite = true
  integers : v.integersFit = true
  whole : ∀ t, v = .text t → Text.Whole t

/-- Every atom and name in the value fits, and lists and objects nest at most so deep. -/
inductive Writable : Nat → Json → Prop
  | atom {n : Nat} {v : Json} (h : v.isAtom = true) (fits : v.AtomFits) : Writable n v
  | list {n : Nat} {items : List Json} (h : ∀ v ∈ items, Writable n v) :
      Writable (n + 1) (.list items)
  | object {n : Nat} {ms : Members} (names : ∀ m ∈ ms, Text.Whole m.1)
      (h : ∀ m ∈ ms, Writable n m.2) : Writable (n + 1) (.object ms)

namespace Writable

theorem fits {n : Nat} {v : Json} (hv : v.isAtom = true) (h : Writable n v) : v.AtomFits := by
  cases h with
  | atom _ fits => exact fits
  | list _ => exact absurd hv Bool.false_ne_true
  | object _ _ => exact absurd hv Bool.false_ne_true

theorem list_iff {n : Nat} {items : List Json} :
    Writable n (.list items) ↔ ∃ k, n = k + 1 ∧ ∀ v ∈ items, Writable k v := by
  constructor
  · intro h
    cases h with
    | atom hv _ => exact absurd hv Bool.false_ne_true
    | list h => exact ⟨_, rfl, h⟩
  · rintro ⟨k, rfl, h⟩
    exact .list h

theorem object_iff {n : Nat} {ms : Members} :
    Writable n (.object ms)
      ↔ ∃ k, n = k + 1 ∧ ∀ m ∈ ms, Text.Whole m.1 ∧ Writable k m.2 := by
  constructor
  · intro h
    cases h with
    | atom hv _ => exact absurd hv Bool.false_ne_true
    | object names h => exact ⟨_, rfl, fun m hm => ⟨names m hm, h m hm⟩⟩
  · rintro ⟨k, rfl, h⟩
    exact .object (fun m hm => (h m hm).1) fun m hm => (h m hm).2

/-- A text is writable to every depth if it is whole. -/
theorem text {n : Nat} {t : Text} (h : Text.Whole t) : Writable n (.text t) := by
  refine .atom rfl ⟨rfl, rfl, ?_⟩
  rintro _ ⟨⟩
  exact h

/-- What nests no deeper than a depth nests no deeper than a greater one. -/
theorem mono {n k : Nat} {v : Json} (h : Writable n v) (hn : n ≤ k) : Writable k v := by
  induction h generalizing k with
  | atom hv fits => exact .atom hv fits
  | list _ ih =>
    obtain ⟨d, rfl⟩ := Nat.exists_eq_add_of_lt hn
    exact .list fun v hv => ih v hv (by omega)
  | object names _ ih =>
    obtain ⟨d, rfl⟩ := Nat.exists_eq_add_of_lt hn
    exact .object names fun m hm => ih m hm (by omega)

/-! ## 2. Other orders of the members -/

/-- **Sorting keeps what is writable.** -/
theorem sorted_iff {n : Nat} {v : Json} : Writable n v.sorted ↔ Writable n v := by
  induction v using byParts generalizing n with
  | atom v h => rw [sorted_atom h]
  | list items ih =>
    simp only [sorted_list, list_iff, List.forall_mem_map]
    exact exists_congr fun k => and_congr_right fun _ => forall₂_congr fun v hv => ih v hv
  | object ms ih =>
    have hmem : ∀ m, m ∈ Members.sort (ms.map sortedMember) ↔ m ∈ ms.map sortedMember :=
      fun m => (Members.sort_perm _).mem_iff
    simp only [sorted_object, object_iff, hmem, List.forall_mem_map]
    exact exists_congr fun k => and_congr_right fun _ => forall₂_congr fun m hm =>
      and_congr_right fun _ => ih m hm

/-- Of two values that are the same tree both are writable or none. -/
theorem congr {n : Nat} {u v : Json} (hu : UniqueNames u) (h : SameTree u v) :
    Writable n u ↔ Writable n v := by
  rw [← sorted_iff, h.sorted_eq hu, sorted_iff]

/-- A text set in an object takes the place of what the object had under that name. -/
theorem set_text {n : Nat} {ms : Members} {k t : Text} (names : (ms.map Prod.fst).Nodup)
    (h : Writable n (.object (Members.erase k ms))) (hk : Text.Whole k) (ht : Text.Whole t) :
    Writable n (.object (Members.set k (.text t) ms)) := by
  obtain ⟨d, rfl, hms⟩ := object_iff.mp h
  refine object_iff.mpr ⟨d, rfl, ?_⟩
  rintro ⟨l, w⟩ hm
  by_cases hname : l = k
  · subst hname
    have hget := (Members.get?_eq_some_iff (Members.nodup_set names l (.text t)) l w).mpr hm
    rw [Members.get?_set_self, Option.some.injEq] at hget
    subst hget
    exact ⟨hk, .text ht⟩
  · rcases Members.mem_set hm with heq | hm
    · exact absurd (congrArg Prod.fst heq) hname
    · exact hms _ (List.mem_filter.mpr ⟨hm, decide_eq_true hname⟩)

end Writable

/-! ## 3. What is printed -/

/-- A numeral is spelled in a whole text. -/
theorem whole_spelled {n : Numeral} (h : n.WellFormed) : Text.Whole n.spelled := by
  have hsigns : ∀ c ∈ [minus, point, CodePoint.ofChar 'e', CodePoint.ofChar '+'],
      c.isSurrogate = false := by decide
  intro c hc
  rcases mem_spelled h hc with hc | hc
  · rw [CodePoint.isAsciiDigit, Bool.and_eq_true, decide_eq_true_eq, decide_eq_true_eq] at hc
    exact CodePoint.isSurrogate_of_lt (by omega)
  · exact hsigns c hc

/-- The text of an atom that is a finite number or no number is whole, unless a surrogate is in the
atom. -/
theorem whole_print_atom {v : Json} (hv : v.isAtom = true) (hfinite : v.isFinite = true) :
    Text.Whole (print .unicode v) ↔ ∀ t, v = .text t → Text.Whole t := by
  have hliteral : ∀ t ∈ (["null", "true", "false"] : List Text), Text.Whole t := by
    unfold Text.Whole
    decide
  have hother : ∀ u : Json, u.text? = none → ∀ t, u = .text t → Text.Whole t := by
    rintro _ hnone t rfl
    exact absurd hnone (Option.some_ne_none t)
  cases v with
  | null => exact iff_of_true (hliteral _ (by decide)) (hother _ rfl)
  | bool b =>
    cases b with
    | false => exact iff_of_true (hliteral _ (by decide)) (hother _ rfl)
    | true => exact iff_of_true (hliteral _ (by decide)) (hother _ rfl)
  | int i =>
    refine iff_of_true ?_ (hother _ rfl)
    rw [print, ← spelled_integerNumeral]
    exact whole_spelled (integerNumeral_wellFormed i)
  | num x =>
    obtain ⟨n, hn, hspelled, -⟩ := printDouble_eq hfinite
    refine iff_of_true ?_ (hother _ rfl)
    rw [print, ← hspelled]
    exact whole_spelled hn
  | text t =>
    rw [print, whole_printText]
    exact ⟨fun h u hu => Json.text.inj hu ▸ h, fun h => h t rfl⟩
  | list items => exact absurd hv Bool.false_ne_true
  | object ms => exact absurd hv Bool.false_ne_true

theorem whole_printItems (items : List Json) :
    Text.Whole (printItems .unicode items) ↔ ∀ v ∈ items, Text.Whole (print .unicode v) := by
  have hcomma : (CodePoint.ofNat 0x2C).isSurrogate = false := by decide
  induction items with
  | nil => exact iff_of_true (List.forall_mem_nil _) (List.forall_mem_nil _)
  | cons v rest ih =>
    cases rest with
    | nil => rw [printItems, List.forall_mem_singleton]
    | cons w rest =>
      rw [printItems, Text.whole_append, Text.whole_cons, List.forall_mem_cons]
      · exact and_congr_right fun _ => (and_iff_right hcomma).trans ih
      · exact List.cons_ne_nil w rest

theorem whole_printMembers (ms : Members) :
    Text.Whole (printMembers .unicode ms)
      ↔ ∀ m ∈ ms, Text.Whole m.1 ∧ Text.Whole (print .unicode m.2) := by
  have hcomma : (CodePoint.ofNat 0x2C).isSurrogate = false := by decide
  have hcolon : (CodePoint.ofNat 0x3A).isSurrogate = false := by decide
  induction ms with
  | nil => exact iff_of_true (List.forall_mem_nil _) (List.forall_mem_nil _)
  | cons m rest ih =>
    obtain ⟨k, v⟩ := m
    cases rest with
    | nil =>
      rw [printMembers, List.forall_mem_singleton, Text.whole_append, Text.whole_cons,
        whole_printText]
      simp only [hcolon, true_and]
    | cons n rest =>
      rw [printMembers, List.append_assoc, Text.whole_append, List.cons_append, Text.whole_cons,
        Text.whole_append, Text.whole_cons, whole_printText, List.forall_mem_cons, and_assoc]
      · refine and_congr_right fun _ => (and_iff_right hcolon).trans (and_congr_right fun _ => ?_)
        exact (and_iff_right hcomma).trans ih
      · exact List.cons_ne_nil n rest

theorem whole_print_list (items : List Json) :
    Text.Whole (print .unicode (.list items)) ↔ ∀ v ∈ items, Text.Whole (print .unicode v) := by
  rw [print, List.cons_append, Text.whole_cons, Text.whole_append, whole_printItems]
  exact (and_iff_right (by decide)).trans (and_iff_left (by unfold Text.Whole; decide))

theorem whole_print_object (ms : Members) :
    Text.Whole (print .unicode (.object ms))
      ↔ ∀ m ∈ ms, Text.Whole m.1 ∧ Text.Whole (print .unicode m.2) := by
  rw [print, List.cons_append, Text.whole_cons, Text.whole_append, whole_printMembers]
  exact (and_iff_right (by decide)).trans (and_iff_left (by unfold Text.Whole; decide))

/-! ## 4. The octets of a writable value -/

theorem isFiniteItems_eq (items : List Json) : isFiniteItems items = items.all isFinite := by
  induction items with
  | nil => rfl
  | cons v rest ih => rw [isFiniteItems, List.all_cons, ih]

theorem isFiniteMembers_eq (ms : Members) :
    isFiniteMembers ms = ms.all fun m => isFinite m.2 := by
  induction ms with
  | nil => rfl
  | cons m rest ih => rw [isFiniteMembers, List.all_cons, ih]

theorem integersFitItems_eq (items : List Json) :
    integersFitItems items = items.all integersFit := by
  induction items with
  | nil => rfl
  | cons v rest ih => rw [integersFitItems, List.all_cons, ih]

theorem integersFitMembers_eq (ms : Members) :
    integersFitMembers ms = ms.all fun m => integersFit m.2 := by
  induction ms with
  | nil => rfl
  | cons m rest ih => rw [integersFitMembers, List.all_cons, ih]

/-- **What a writable value is, by the checks of the writer.** -/
theorem writable_iff {n : Nat} {v : Json} :
    Writable n v ↔ v.nestsWithin n = true ∧ v.isFinite = true ∧ v.integersFit = true
      ∧ Text.Whole (print .unicode v) := by
  induction v using byParts generalizing n with
  | atom v h =>
    have hnests : v.nestsWithin n = true := by
      cases v with
      | list items => exact absurd h Bool.false_ne_true
      | object ms => exact absurd h Bool.false_ne_true
      | _ => cases n <;> rfl
    constructor
    · intro hw
      obtain ⟨hfinite, hfits, hwhole⟩ := hw.fits h
      exact ⟨hnests, hfinite, hfits, (whole_print_atom h hfinite).mpr hwhole⟩
    · rintro ⟨-, hfinite, hfits, hwhole⟩
      exact .atom h ⟨hfinite, hfits, (whole_print_atom h hfinite).mp hwhole⟩
  | list items ih =>
    rw [whole_print_list, isFinite, isFiniteItems_eq, integersFit, integersFitItems_eq,
      Writable.list_iff]
    cases n with
    | zero =>
      refine iff_of_false ?_ ?_
      · rintro ⟨k, ⟨⟩, -⟩
      · rintro ⟨⟨⟩, -⟩
    | succ k =>
      simp only [nestsWithin, List.all_eq_true, ← forall₂_and]
      constructor
      · rintro ⟨_, ⟨⟩, h⟩
        exact fun v hv => (ih v hv).mp (h v hv)
      · exact fun h => ⟨k, rfl, fun v hv => (ih v hv).mpr (h v hv)⟩
  | object ms ih =>
    rw [whole_print_object, isFinite, isFiniteMembers_eq, integersFit, integersFitMembers_eq,
      Writable.object_iff]
    cases n with
    | zero =>
      refine iff_of_false ?_ ?_
      · rintro ⟨k, ⟨⟩, -⟩
      · rintro ⟨⟨⟩, -⟩
    | succ k =>
      simp only [nestsWithin, List.all_eq_true, ← forall₂_and]
      constructor
      · rintro ⟨_, ⟨⟩, h⟩ m hm
        obtain ⟨hnests, hfinite, hfits, hprint⟩ := (ih m hm).mp (h m hm).2
        exact ⟨hnests, hfinite, hfits, (h m hm).1, hprint⟩
      · intro h
        refine ⟨k, rfl, fun m hm => ?_⟩
        obtain ⟨hnests, hfinite, hfits, hname, hprint⟩ := h m hm
        exact ⟨hname, (ih m hm).mpr ⟨hnests, hfinite, hfits, hprint⟩⟩

/-- **The values that have octets are the writable ones.** -/
theorem octets_eq_ok_iff (v : Json) (b : Bytes) :
    v.octets = .ok b ↔ Writable maxDepth v ∧ (print .unicode v).utf8? = some b := by
  rw [octets, writable_iff]
  cases hnests : v.nestsWithin maxDepth with
  | false =>
    refine iff_of_false ?_ ?_
    · rintro ⟨⟩
    · rintro ⟨⟨⟨⟩, -⟩, -⟩
  | true =>
  cases hfinite : v.isFinite with
  | false =>
    refine iff_of_false ?_ ?_
    · rintro ⟨⟩
    · rintro ⟨⟨-, ⟨⟩, -⟩, -⟩
  | true =>
  cases hfits : v.integersFit with
  | false =>
    refine iff_of_false ?_ ?_
    · rintro ⟨⟩
    · rintro ⟨⟨-, -, ⟨⟩, -⟩, -⟩
  | true =>
  cases hprint : (print .unicode v).utf8? with
  | none =>
    refine iff_of_false ?_ ?_
    · rintro ⟨⟩
    · rintro ⟨-, ⟨⟩⟩
  | some c =>
    have hwhole := ((Text.utf8?_eq_some_iff _ _).mp hprint).1
    constructor
    · intro h
      exact ⟨⟨rfl, rfl, rfl, hwhole⟩, congrArg some (Except.ok.inj h)⟩
    · intro h
      exact congrArg Except.ok (Option.some.inj h.2)

/-- A writable value has octets. -/
theorem Writable.exists_utf8? {n : Nat} {v : Json} (h : Writable n v) :
    ∃ b, (print .unicode v).utf8? = some b :=
  ⟨_, (Text.utf8?_eq_some_iff _ _).mpr ⟨(writable_iff.mp h).2.2.2, rfl⟩⟩

end Json

end Portcullis
