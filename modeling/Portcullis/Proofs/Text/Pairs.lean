/-
# Pairs of surrogates

A high surrogate that is directly followed by a low one stands for a single code point wherever
texts are taken by their UTF-16 units.  Such a passage joins the pairs (`Text.joined`); a text
without pairs comes through as it is.

**Main statements.**  `joined_pair` and `joined_cons_cons` for two code points in turn, and
`joined_eq_self_iff`.
-/
import Mathlib.Data.List.Chain
import Portcullis.Proofs.Text.Utf8
import Portcullis.Text.Encoding

namespace Portcullis

namespace CodePoint

/-- The surrogates that begin a pair. -/
def isHigh (c : CodePoint) : Bool := 0xD800 ≤ c.val && c.val ≤ 0xDBFF

/-- The surrogates that end a pair. -/
def isLow (c : CodePoint) : Bool := 0xDC00 ≤ c.val && c.val ≤ 0xDFFF

/-- The code point that a pair stands for. -/
def ofPair (high low : CodePoint) : CodePoint :=
  ofNat (0x10000 + (high.val - 0xD800) * 0x400 + (low.val - 0xDC00))

theorem isHigh_iff (c : CodePoint) : c.isHigh = true ↔ 0xD800 ≤ c.val ∧ c.val ≤ 0xDBFF := by
  simp [isHigh]

theorem isLow_iff (c : CodePoint) : c.isLow = true ↔ 0xDC00 ≤ c.val ∧ c.val ≤ 0xDFFF := by
  simp [isLow]

theorem isHigh_of_not_surrogate {c : CodePoint} (h : c.isSurrogate = false) : c.isHigh = false := by
  simp only [isSurrogate, isHigh, Bool.and_eq_false_iff, decide_eq_false_iff_not] at h ⊢
  omega

/-- No surrogate begins a pair and ends one. -/
theorem isHigh_of_isLow {c : CodePoint} (h : c.isLow = true) : c.isHigh = false := by
  rw [isLow_iff] at h
  simp only [isHigh, Bool.and_eq_false_iff, decide_eq_false_iff_not]
  omega

/-- A pair stands for a code point beyond those of a single unit. -/
theorem le_val_ofPair {h l : CodePoint} (hh : h.isHigh = true) (hl : l.isLow = true) :
    0x10000 ≤ (ofPair h l).val := by
  rw [isHigh_iff] at hh
  rw [isLow_iff] at hl
  rw [ofPair, val_ofNat (by omega)]
  omega

end CodePoint

namespace Text

/-- The text with each high surrogate joined to the low one after it. -/
def joined (t : Text) : Text := Encoding.joinPairs (t.map CodePoint.val)

/-- The text holds no pair of surrogates. -/
def Unpaired (t : Text) : Prop := t.IsChain fun h l => ¬ (h.isHigh = true ∧ l.isLow = true)

instance : DecidablePred Unpaired := fun t => inferInstanceAs (Decidable (t.IsChain _))

@[simp] theorem joined_nil : joined [] = [] := rfl

theorem joined_singleton (c : CodePoint) : joined [c] = [c] := by
  simp [joined, Encoding.joinPairs]

/-- A pair is joined. -/
theorem joined_pair {h l : CodePoint} (hh : h.isHigh = true) (hl : l.isLow = true) (t : Text) :
    joined (h :: l :: t) = CodePoint.ofPair h l :: joined t := by
  rw [CodePoint.isHigh_iff] at hh
  rw [CodePoint.isLow_iff] at hl
  simp only [joined, List.map_cons, Encoding.joinPairs, hh.1, hh.2, hl.1, hl.2, and_self, if_true]
  rfl

example : joined [CodePoint.ofNat 0xD83D, CodePoint.ofNat 0xDE00] = [CodePoint.ofNat 0x1F600] := by
  decide

/-- The halves of a code point. -/
def twoHalves : Text := [CodePoint.ofNat 0xD83D, CodePoint.ofNat 0xDE00]

/-- What is no pair stays. -/
theorem joined_cons_cons {c d : CodePoint} (h : ¬ (c.isHigh = true ∧ d.isLow = true)) (t : Text) :
    joined (c :: d :: t) = c :: joined (d :: t) := by
  rw [CodePoint.isHigh_iff, CodePoint.isLow_iff, and_assoc] at h
  simp only [joined, List.map_cons, Encoding.joinPairs, if_neg h, CodePoint.ofNat_val]

/-- What begins no pair stays. -/
theorem joined_cons {c : CodePoint} (hc : c.isHigh = false) (t : Text) :
    joined (c :: t) = c :: joined t := by
  cases t with
  | nil => rw [joined_singleton, joined_nil]
  | cons d t => exact joined_cons_cons (fun h => absurd (hc.symm.trans h.1) (by decide)) t

/-- **A text without pairs stays as it is.** -/
theorem joined_eq_self {t : Text} (h : Unpaired t) : joined t = t := by
  induction t with
  | nil => rfl
  | cons c t ih =>
    cases t with
    | nil => exact joined_singleton c
    | cons d t =>
      obtain ⟨hc, ht⟩ := List.isChain_cons_cons.mp h
      rw [joined_cons_cons hc, ih ht]

/-- Joining makes no text longer. -/
theorem length_joined_le : (t : Text) → (joined t).length ≤ t.length
  | [] => le_rfl
  | [c] => by rw [joined_singleton]
  | c :: d :: t => by
    by_cases hpair : c.isHigh = true ∧ d.isLow = true
    · have hrest := length_joined_le t
      rw [joined_pair hpair.1 hpair.2]
      simp only [List.length_cons]
      omega
    · have hrest := length_joined_le (d :: t)
      rw [joined_cons_cons hpair]
      simp only [List.length_cons] at hrest ⊢
      omega

/-- **Only a text without pairs stays as it is**: with every pair it gets shorter. -/
theorem joined_eq_self_iff (t : Text) : joined t = t ↔ Unpaired t := by
  refine ⟨fun h => ?_, joined_eq_self⟩
  induction t with
  | nil => exact List.isChain_nil
  | cons c t ih =>
    cases t with
    | nil => exact List.isChain_singleton c
    | cons d t =>
      by_cases hpair : c.isHigh = true ∧ d.isLow = true
      · have hlength := congrArg List.length h
        have hrest := length_joined_le t
        rw [joined_pair hpair.1 hpair.2] at hlength
        simp only [List.length_cons] at hlength
        omega
      · rw [joined_cons_cons hpair] at h
        exact List.isChain_cons_cons.mpr ⟨hpair, ih (List.cons.inj h).2⟩

/-- Only a text itself is joined to a text of code points that stand for themselves. -/
theorem joined_eq_iff {u : Text} (hu : ∀ c ∈ u, c.val < 0xD800) (t : Text) :
    joined t = u ↔ t = u := by
  induction t generalizing u with
  | nil => rw [joined_nil]
  | cons c t ih =>
    cases t with
    | nil => rw [joined_singleton]
    | cons d t =>
      by_cases hpair : c.isHigh = true ∧ d.isLow = true
      · rw [joined_pair hpair.1 hpair.2]
        refine iff_of_false ?_ ?_
        · rintro rfl
          have hlt := hu _ List.mem_cons_self
          have hle := CodePoint.le_val_ofPair hpair.1 hpair.2
          omega
        · rintro rfl
          have hlt := hu c List.mem_cons_self
          have hle := (CodePoint.isHigh_iff c).mp hpair.1
          omega
      · rw [joined_cons_cons hpair]
        cases u with
        | nil => simp
        | cons e u =>
          rw [List.cons.injEq, List.cons.injEq, ih (List.forall_mem_cons.mp hu).2]

/-- A text without surrogates has no pairs. -/
theorem Whole.unpaired {t : Text} (h : Whole t) : Unpaired t := by
  induction t with
  | nil => exact List.isChain_nil
  | cons c t ih =>
    obtain ⟨hc, ht⟩ := List.forall_mem_cons.mp h
    have hhigh := CodePoint.isHigh_of_not_surrogate hc
    exact List.isChain_cons.mpr
      ⟨fun d _ hd => absurd (hhigh.symm.trans hd.1) (by decide), ih ht⟩

end Text

end Portcullis
