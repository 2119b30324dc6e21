/-
# Base 64, written and read

**Main statements.**  A text that is read holds digits and padding only (`mem_of_decode`), and what
is written without padding is read back (`decode_encode`).
-/
import Mathlib.Data.List.TakeWhile
import Portcullis.Bytes.Base64

namespace Portcullis.Base64

/-! ## 1. Signs -/

/-- The digits of an alphabet and the padding sign. -/
def IsSign (a : Alphabet) (c : CodePoint) : Prop := (a.value? c).isSome = true ∨ c = pad

theorem isSome_of_mapM {α β : Type} {f : α → Option β} {as : List α} {bs : List β}
    (h : as.mapM f = some bs) : ∀ x ∈ as, (f x).isSome = true := by
  induction as generalizing bs with
  | nil => exact fun _ hx => absurd hx List.not_mem_nil
  | cons x as ih =>
    rw [List.mapM_cons] at h
    obtain ⟨y, hy, h⟩ := Option.bind_eq_some_iff.mp h
    obtain ⟨ys, hys, -⟩ := Option.bind_eq_some_iff.mp h
    intro z hz
    rcases List.mem_cons.mp hz with rfl | hz
    · rw [hy]
      rfl
    · exact ih hys z hz

/-- A text without the padding at its end, and the padding. -/
theorem mem_cutPadding {t : Text} {c : CodePoint} (hc : c ∈ t) :
    c ∈ (cutPadding t).1 ∨ c = pad := by
  have hsplit : c ∈ t.reverse.takeWhile (· == pad) ++ t.reverse.dropWhile (· == pad) := by
    rw [List.takeWhile_append_dropWhile]
    exact List.mem_reverse.mpr hc
  rcases List.mem_append.mp hsplit with h | h
  · have hpad : (c == pad) = true := List.mem_takeWhile_imp (p := (· == pad)) h
    exact Or.inr (beq_iff_eq.mp hpad)
  · exact Or.inl (List.mem_reverse.mpr h)

/-- **A text that is read holds digits and padding only.** -/
theorem mem_of_decode {a : Alphabet} {t : Text} {b : Bytes} (h : decode a t = some b) :
    ∀ c ∈ t, IsSign a c := by
  have hdigits : decodeDigits a (cutPadding t).1 = some b := by
    have hdecode : decode a t
        = if (cutPadding t).2 = 0 ∨ ((cutPadding t).2 ≤ 2 ∧ t.length % 4 = 0)
          then decodeDigits a (cutPadding t).1 else none := rfl
    rw [hdecode] at h
    split at h
    · exact h
    · exact absurd h.symm (Option.some_ne_none b)
  obtain ⟨values, hvalues, -⟩ := Option.bind_eq_some_iff.mp hdigits
  intro c hc
  rcases mem_cutPadding hc with hc | hc
  · exact Or.inl (isSome_of_mapM hvalues c hc)
  · exact Or.inr hc

/-- The signs of the alphabet for addresses are ASCII, and no dot is among them. -/
theorem urlSafe_sign {c : CodePoint} (h : IsSign urlSafe c) : c.val < 0x80 ∧ c.val ≠ 0x2E := by
  have hlast : urlSafe.digit62 = 0x2D ∧ urlSafe.digit63 = 0x5F := ⟨rfl, rfl⟩
  rcases h with h | rfl
  · by_contra hc
    rw [Alphabet.value?, hlast.1, hlast.2, if_neg (by omega), if_neg (by omega), if_neg (by omega),
      if_neg (by omega), if_neg (by omega)] at h
    cases h
  · decide

/-! ## 2. What is written -/

/-- Every digit has the value that it is the digit for. -/
theorem value?_digit {v : Nat} (h : v < 64) : urlSafe.value? (urlSafe.digit v) = some v := by
  have hall : ∀ v < 64, urlSafe.value? (urlSafe.digit v) = some v := by decide
  exact hall v h

theorem sextets_lt (b : Bytes) : ∀ v ∈ sextets b, v < 64 := by
  induction b using sextets.induct with
  | case1 => exact List.forall_mem_nil _
  | case2 x =>
    have hx := x.toNat_lt
    simp only [sextets, List.forall_mem_cons]
    exact ⟨by omega, by omega, List.forall_mem_nil _⟩
  | case3 x y =>
    have hx := x.toNat_lt
    have hy := y.toNat_lt
    simp only [sextets, List.forall_mem_cons]
    exact ⟨by omega, by omega, by omega, List.forall_mem_nil _⟩
  | case4 x y z rest ih =>
    have hx := x.toNat_lt
    have hy := y.toNat_lt
    have hz := z.toNat_lt
    simp only [sextets, List.forall_mem_cons]
    exact ⟨by omega, by omega, by omega, by omega, ih⟩

theorem ofNat_eq_of_toNat {x : UInt8} {n : Nat} (h : n = x.toNat) : UInt8.ofNat n = x := by
  rw [h, UInt8.ofNat_toNat]

/-- The digits of octets stand for them. -/
theorem ofSextets_sextets (b : Bytes) : ofSextets (sextets b) = some b := by
  induction b using sextets.induct with
  | case1 => rfl
  | case2 x =>
    have hx := x.toNat_lt
    rw [sextets, ofSextets, if_pos (by omega), ofNat_eq_of_toNat (x := x) (by omega)]
  | case3 x y =>
    have hx := x.toNat_lt
    have hy := y.toNat_lt
    rw [sextets, ofSextets, if_pos (by omega), ofNat_eq_of_toNat (x := x) (by omega),
      ofNat_eq_of_toNat (x := y) (by omega)]
  | case4 x y z rest ih =>
    have hx := x.toNat_lt
    have hy := y.toNat_lt
    have hz := z.toNat_lt
    rw [sextets, ofSextets, ih, ofNat_eq_of_toNat (x := x) (by omega),
      ofNat_eq_of_toNat (x := y) (by omega), ofNat_eq_of_toNat (x := z) (by omega)]
    rfl

/-- A text that is written holds digits. -/
theorem isSome_of_mem_encode {b : Bytes} {c : CodePoint} (h : c ∈ encode urlSafe b) :
    (urlSafe.value? c).isSome = true := by
  obtain ⟨v, hv, rfl⟩ := List.mem_map.mp h
  rw [value?_digit (sextets_lt b v hv)]
  rfl

/-- A text without padding is all digits. -/
theorem cutPadding_of_notMem {t : Text} (h : pad ∉ t) : cutPadding t = (t, 0) := by
  have hdrop : t.reverse.dropWhile (· == pad) = t.reverse := by
    rw [List.dropWhile_eq_self_iff]
    intro hl hpad
    have hmem : t.reverse[0] ∈ t := List.mem_reverse.mp (List.getElem_mem hl)
    exact h (beq_iff_eq.mp hpad ▸ hmem)
  rw [cutPadding, hdrop, List.reverse_reverse, Nat.sub_self]

/-- **What is written is read back.** -/
theorem decode_encode (b : Bytes) : decode urlSafe (encode urlSafe b) = some b := by
  have hpad : pad ∉ encode urlSafe b := fun h => absurd (isSome_of_mem_encode h) (by decide)
  have hvalues : (encode urlSafe b).mapM urlSafe.value? = some (sextets b) := by
    have hall : ∀ vs : List Nat, (∀ v ∈ vs, v < 64) →
        (vs.map urlSafe.digit).mapM urlSafe.value? = some vs := by
      intro vs
      induction vs with
      | nil => exact fun _ => rfl
      | cons v vs ih =>
        intro h
        obtain ⟨hv, hvs⟩ := List.forall_mem_cons.mp h
        rw [List.map_cons, List.mapM_cons, value?_digit hv, ih hvs]
        rfl
    exact hall _ (sextets_lt b)
  have hdigits : decodeDigits urlSafe (encode urlSafe b) = some b := by
    rw [decodeDigits, hvalues]
    exact ofSextets_sextets b
  rw [decode, cutPadding_of_notMem hpad]
  exact (if_pos (Or.inl rfl)).trans hdigits

end Portcullis.Base64
