/-
# Trimmed texts

Trimming takes away the blanks at the two ends of a text and nothing else, so that what is left is
trimmed, and what is trimmed stays.  A text with blanks around it is trimmed to the text.

**Main statements.**  `strip_of_trimmed`, `trimmed_strip`, `exists_strip`, `Padded.strip_eq` and
`Padded.strip_eq_strip`.
-/
import Mathlib.Data.List.Basic
import Mathlib.Data.List.TakeWhile
import Portcullis.Text.Blank

namespace Portcullis.Text

/-! ## 1. Trimming -/

/-- The text neither begins nor ends with a blank. -/
structure Trimmed (t : Text) : Prop where
  head : ∀ c, t.head? = some c → c.isBlank = false
  last : ∀ c, t.getLast? = some c → c.isBlank = false

theorem trimmed_of_forall {t : Text} (h : ∀ c ∈ t, c.isBlank = false) : Trimmed t :=
  ⟨fun _ hc => h _ (List.mem_of_head? hc), fun _ hc => h _ (List.mem_of_getLast? hc)⟩

/-- Texts that neither begin nor end with a blank keep it so, whatever is between them. -/
theorem Trimmed.between {s u : Text} (hs : Trimmed s) (hu : Trimmed u) (hsne : s ≠ [])
    (hune : u ≠ []) (t : Text) : Trimmed (s ++ t ++ u) := by
  constructor
  · intro c hc
    rw [List.append_assoc, List.head?_append_of_ne_nil _ hsne] at hc
    exact hs.head c hc
  · intro c hc
    rw [List.getLast?_append_of_ne_nil _ hune] at hc
    exact hu.last c hc

theorem dropWhile_eq_self {p : CodePoint → Bool} {t : Text}
    (h : ∀ c, t.head? = some c → p c = false) : t.dropWhile p = t := by
  cases t with
  | nil => rfl
  | cons c t => rw [List.dropWhile_cons, h c rfl, if_neg Bool.false_ne_true]

/-- What is trimmed already stays. -/
theorem strip_of_trimmed {t : Text} (h : Trimmed t) : strip t = t := by
  have hreverse : ∀ c, t.reverse.head? = some c → c.isBlank = false := fun c hc =>
    h.last c (List.head?_reverse ▸ hc)
  rw [strip, trimEnds, dropWhile_eq_self h.head, dropWhile_eq_self hreverse, List.reverse_reverse]

theorem head_dropWhile {p : CodePoint → Bool} {t : Text} {c : CodePoint}
    (h : (t.dropWhile p).head? = some c) : p c = false := by
  have hnot := List.head?_dropWhile_not p t
  rw [h] at hnot
  exact hnot

/-- **Trimming trims.** -/
theorem trimmed_strip (t : Text) : Trimmed (strip t) := by
  rw [strip, trimEnds]
  constructor
  · intro c hc
    -- What is left after both ends begins as what is left after the first.
    obtain ⟨dropped, hdropped⟩ :=
      List.dropWhile_suffix CodePoint.isBlank (l := (t.dropWhile CodePoint.isBlank).reverse)
    have happend := congrArg List.reverse hdropped
    rw [List.reverse_append, List.reverse_reverse] at happend
    refine head_dropWhile (t := t) ?_
    rw [← happend, List.head?_append, hc]
    rfl
  · intro c hc
    rw [List.getLast?_reverse] at hc
    exact head_dropWhile hc

/-- Trimming drops blanks at the two ends. -/
theorem exists_strip (t : Text) :
    ∃ l r : Text, t = l ++ strip t ++ r ∧ (∀ c ∈ l, c.isBlank = true)
      ∧ ∀ c ∈ r, c.isBlank = true := by
  let inner := t.dropWhile CodePoint.isBlank
  refine ⟨t.takeWhile CodePoint.isBlank, (inner.reverse.takeWhile CodePoint.isBlank).reverse, ?_,
    fun c => List.mem_takeWhile_imp, fun c hc => ?_⟩
  · have hinner : strip t ++ (inner.reverse.takeWhile CodePoint.isBlank).reverse = inner := by
      rw [strip, trimEnds, ← List.reverse_append, List.takeWhile_append_dropWhile,
        List.reverse_reverse]
    rw [List.append_assoc, hinner, List.takeWhile_append_dropWhile]
  · exact List.mem_takeWhile_imp (List.mem_reverse.mp hc)

/-- What is trimmed stays when blanks at the two ends are dropped. -/
theorem strip_append {l u r : Text} (hu : Trimmed u) (hne : u ≠ [])
    (hl : ∀ c ∈ l, c.isBlank = true) (hr : ∀ c ∈ r, c.isBlank = true) :
    strip (l ++ u ++ r) = u := by
  have hfirst : (l ++ u ++ r).dropWhile CodePoint.isBlank = u ++ r := by
    rw [List.append_assoc, List.dropWhile_append_of_pos hl]
    refine dropWhile_eq_self fun c hc => hu.head c ?_
    rwa [List.head?_append_of_ne_nil _ hne] at hc
  have hlast : u.reverse.dropWhile CodePoint.isBlank = u.reverse :=
    dropWhile_eq_self fun c hc => hu.last c (List.head?_reverse ▸ hc)
  have hend : ∀ c ∈ r.reverse, c.isBlank = true := fun c hc => hr c (List.mem_reverse.mp hc)
  rw [strip, trimEnds, hfirst, List.reverse_append, List.dropWhile_append_of_pos hend, hlast,
    List.reverse_reverse]

theorem mem_dropWhile {p : CodePoint → Bool} {t : Text} {c : CodePoint} (hc : c ∈ t)
    (hp : p c = false) : c ∈ t.dropWhile p := by
  rw [← List.takeWhile_append_dropWhile (p := p) (l := t)] at hc
  rcases List.mem_append.mp hc with hc | hc
  · exact absurd (hp.symm.trans (List.mem_takeWhile_imp hc)) Bool.false_ne_true
  · exact hc

/-- What is not blank is not trimmed off. -/
theorem mem_strip {t : Text} {c : CodePoint} (hc : c ∈ t) (hblank : c.isBlank = false) :
    c ∈ strip t :=
  List.mem_reverse.mpr
    (mem_dropWhile (List.mem_reverse.mpr (mem_dropWhile hc hblank)) hblank)

theorem mem_of_mem_strip {t : Text} {c : CodePoint} (hc : c ∈ strip t) : c ∈ t := by
  obtain ⟨l, r, ht, -, -⟩ := exists_strip t
  rw [ht]
  simp [hc]

/-- Trimming takes nothing away that is not blank. -/
theorem count_strip {c : CodePoint} (hblank : c.isBlank = false) (t : Text) :
    (strip t).count c = t.count c := by
  obtain ⟨l, r, ht, hl, hr⟩ := exists_strip t
  have hnone : ∀ u : Text, (∀ d ∈ u, d.isBlank = true) → u.count c = 0 := by
    intro u hu
    refine List.count_eq_zero.mpr fun hc => ?_
    exact Bool.false_ne_true (hblank.symm.trans (hu c hc))
  have hcount := congrArg (List.count c) ht
  rw [List.count_append, List.count_append, hnone l hl, hnone r hr] at hcount
  omega

/-- A text that is not blank has something in it that is not. -/
theorem exists_of_isBlank {t : Text} (h : t.isBlank = false) : ∃ c ∈ t, c.isBlank = false := by
  obtain ⟨c, hc, hblank⟩ := List.all_eq_false.mp h
  exact ⟨c, hc, (Bool.not_eq_true _).mp hblank⟩

theorem isBlank_of_mem {t : Text} {c : CodePoint} (hc : c ∈ t) (hblank : c.isBlank = false) :
    t.isBlank = false :=
  List.all_eq_false.mpr ⟨c, hc, (Bool.not_eq_true _).mpr hblank⟩

/-! ## 2. Blanks around texts -/

/-- A text is another with nothing but blanks around it. -/
def Padded (inner t : Text) : Prop :=
  ∃ l r : Text, t = l ++ inner ++ r ∧ (∀ c ∈ l, c.isBlank = true) ∧ ∀ c ∈ r, c.isBlank = true

/-- Blanks in front are trimmed off. -/
theorem strip_append_left {l : Text} (hl : ∀ c ∈ l, c.isBlank = true) (t : Text) :
    strip (l ++ t) = strip t := by
  rw [strip, trimEnds, List.dropWhile_append_of_pos hl]
  rfl

theorem strip_of_blank {t : Text} (h : ∀ c ∈ t, c.isBlank = true) : strip t = [] := by
  have hnil := strip_append_left h []
  rwa [List.append_nil] at hnil

theorem Padded.strip_eq {inner t : Text} (h : Padded inner t) (hinner : Trimmed inner) :
    strip t = inner := by
  obtain ⟨l, r, rfl, hl, hr⟩ := h
  by_cases hnil : inner = []
  · rw [hnil, List.append_nil, strip_append_left hl, strip_of_blank hr]
  · exact strip_append hinner hnil hl hr

/-- **Blanks around a text** are trimmed off with those that it has at its ends. -/
theorem Padded.strip_eq_strip {inner t : Text} (h : Padded inner t) : strip t = strip inner := by
  obtain ⟨l, r, rfl, hl, hr⟩ := h
  obtain ⟨l', r', hinner, hl', hr'⟩ := exists_strip inner
  have hpadded : Padded (strip inner) (l ++ inner ++ r) := by
    refine ⟨l ++ l', r' ++ r, ?_, List.forall_mem_append.mpr ⟨hl, hl'⟩,
      List.forall_mem_append.mpr ⟨hr', hr⟩⟩
    calc l ++ inner ++ r = l ++ (l' ++ strip inner ++ r') ++ r := by rw [← hinner]
      _ = l ++ l' ++ strip inner ++ (r' ++ r) := by simp only [List.append_assoc]
  exact hpadded.strip_eq (trimmed_strip inner)

/-- A text with something in it that is not blank has that also with blanks around it. -/
theorem Padded.isBlank_eq_false {inner t : Text} (h : Padded inner t)
    (hinner : inner.isBlank = false) : t.isBlank = false := by
  obtain ⟨l, r, rfl, -, -⟩ := h
  obtain ⟨c, hc, hvisible⟩ := exists_of_isBlank hinner
  exact isBlank_of_mem (List.mem_append_left r (List.mem_append_right l hc)) hvisible

/-- What is not blank is in a text only if it is in the other. -/
theorem Padded.notMem {inner t : Text} (h : Padded inner t) {c : CodePoint}
    (hblank : c.isBlank = false) (hc : c ∉ inner) : c ∉ t := by
  obtain ⟨l, r, rfl, hl, hr⟩ := h
  have hnot : ∀ u : Text, (∀ d ∈ u, d.isBlank = true) → c ∉ u := fun u hu hmem =>
    Bool.false_ne_true (hblank.symm.trans (hu c hmem))
  simp [hc, hnot l hl, hnot r hr]

end Portcullis.Text
