/-
# Rounding leaves binary64 numbers where they are

A quotient that is exactly the value of a finite number is rounded to that number, whatever the
quotient is written with.  The exponent is found first (`floorLog2_spec` brackets the quotient
between two powers of two), and at that exponent the division is exact.  Integers that are not too
long are such values, so they are kept exactly.

**Main statements.**  `ofRatio_of_eq_scaled` and `toRat?_ofInt`.
-/
import Mathlib.Algebra.Order.Field.Power
import Mathlib.Data.Rat.Cast.Order
import Mathlib.Tactic.FieldSimp
import Mathlib.Tactic.Linarith
import Mathlib.Tactic.Positivity
import Mathlib.Tactic.Ring
import Portcullis.Number.Double

namespace Portcullis.Double

/-! ## 1. Powers -/

/-- A power of a base above one brackets a number at one exponent only. -/
theorem exponent_unique {b x : ℚ} (hb : 1 < b) {j k : ℤ} (hj : b ^ j ≤ x) (hj' : x < b ^ (j + 1))
    (hk : b ^ k ≤ x) (hk' : x < b ^ (k + 1)) : j = k := by
  have h₁ : j < k + 1 := (zpow_lt_zpow_iff_right₀ hb).mp (lt_of_le_of_lt hj hk')
  have h₂ : k < j + 1 := (zpow_lt_zpow_iff_right₀ hb).mp (lt_of_le_of_lt hk hj')
  omega

/-- The exact value of a significand and an exponent. -/
theorem scaled_eq (m : Nat) (e : Int) : scaled m e = (m : ℚ) * 2 ^ e := by
  rw [scaled]
  split
  · next h =>
    obtain ⟨k, rfl⟩ := Int.eq_ofNat_of_zero_le h
    rw [Int.toNat_natCast, Nat.pow_eq, zpow_natCast]
    push_cast
    rfl
  · next h =>
    obtain ⟨k, hk⟩ := Int.eq_ofNat_of_zero_le (show 0 ≤ -e by omega)
    rw [hk, Int.toNat_natCast, Nat.pow_eq, Rat.mkRat_eq_div, show e = -(k : ℤ) by omega, zpow_neg,
      zpow_natCast]
    push_cast
    rfl

/-! ## 2. The exponent of a quotient -/

/-- What the search for the exponent compares. -/
theorem reached_iff {n d : Nat} (hd : 0 < d) (g : ℤ) :
    (if g ≥ 0 then d * 2 ^ g.toNat ≤ n else d ≤ n * 2 ^ (-g).toNat) ↔
      (2 : ℚ) ^ g ≤ (n : ℚ) / d := by
  have hd' : (0 : ℚ) < d := by exact_mod_cast hd
  rw [le_div_iff₀ hd']
  split
  · next h =>
    obtain ⟨k, rfl⟩ := Int.eq_ofNat_of_zero_le h
    rw [Int.toNat_natCast, zpow_natCast, mul_comm]
    exact_mod_cast Iff.rfl
  · next h =>
    obtain ⟨k, hk⟩ := Int.eq_ofNat_of_zero_le (show 0 ≤ -g by omega)
    have hpow : (0 : ℚ) < 2 ^ k := by positivity
    rw [hk, Int.toNat_natCast, show g = -(k : ℤ) by omega, zpow_neg, zpow_natCast,
      inv_mul_le_iff₀ hpow, mul_comm]
    exact_mod_cast Iff.rfl

/-- The quotient lies between the difference of the logarithms less one and that plus one. -/
theorem log2_bracket {n d : Nat} (hn : n ≠ 0) (hd : d ≠ 0) :
    (2 : ℚ) ^ ((n.log2 : ℤ) - d.log2 - 1) ≤ (n : ℚ) / d ∧
      (n : ℚ) / d < 2 ^ ((n.log2 : ℤ) - d.log2 + 1) := by
  have hd' : (0 : ℚ) < d := by exact_mod_cast Nat.pos_of_ne_zero hd
  have hn₁ : (2 : ℚ) ^ (n.log2 : ℤ) ≤ n := by exact_mod_cast Nat.log2_self_le hn
  have hn₂ : (n : ℚ) < 2 ^ ((n.log2 : ℤ) + 1) := by exact_mod_cast Nat.lt_log2_self
  have hd₁ : (2 : ℚ) ^ (d.log2 : ℤ) ≤ d := by exact_mod_cast Nat.log2_self_le hd
  have hd₂ : (d : ℚ) < 2 ^ ((d.log2 : ℤ) + 1) := by exact_mod_cast Nat.lt_log2_self
  constructor
  · rw [le_div_iff₀ hd']
    calc (2 : ℚ) ^ ((n.log2 : ℤ) - d.log2 - 1) * d
        ≤ 2 ^ ((n.log2 : ℤ) - d.log2 - 1) * 2 ^ ((d.log2 : ℤ) + 1) :=
          mul_le_mul_of_nonneg_left hd₂.le (by positivity)
      _ = 2 ^ (n.log2 : ℤ) := by rw [← zpow_add₀ two_ne_zero]; congr 1; ring
      _ ≤ n := hn₁
  · rw [div_lt_iff₀ hd']
    calc (n : ℚ) < 2 ^ ((n.log2 : ℤ) + 1) := hn₂
      _ = 2 ^ ((n.log2 : ℤ) - d.log2 + 1) * 2 ^ (d.log2 : ℤ) := by
          rw [← zpow_add₀ two_ne_zero]; congr 1; ring
      _ ≤ 2 ^ ((n.log2 : ℤ) - d.log2 + 1) * d := mul_le_mul_of_nonneg_left hd₁ (by positivity)

/-- **The exponent brackets the quotient.** -/
theorem floorLog2_spec {n d : Nat} (hn : n ≠ 0) (hd : d ≠ 0) :
    (2 : ℚ) ^ floorLog2 n d ≤ (n : ℚ) / d ∧ (n : ℚ) / d < 2 ^ (floorLog2 n d + 1) := by
  obtain ⟨hlow, hhigh⟩ := log2_bracket hn hd
  have hreached := reached_iff (n := n) (Nat.pos_of_ne_zero hd) ((n.log2 : ℤ) - d.log2)
  by_cases h : (2 : ℚ) ^ ((n.log2 : ℤ) - d.log2) ≤ (n : ℚ) / d
  · have heq : floorLog2 n d = (n.log2 : ℤ) - d.log2 := if_pos (hreached.mpr h)
    rw [heq]
    exact ⟨h, hhigh⟩
  · have heq : floorLog2 n d = (n.log2 : ℤ) - d.log2 - 1 :=
      if_neg fun hr => h (hreached.mp hr)
    rw [heq, sub_add_cancel]
    exact ⟨hlow, lt_of_not_ge h⟩

/-! ## 3. Exact values -/

/-- An exact quotient is not rounded. -/
theorem roundQuotient_mul (m : Nat) {d : Nat} (hd : 0 < d) : roundQuotient (m * d) d = m := by
  rw [roundQuotient]
  simp only [Nat.mul_div_cancel m hd, Nat.mul_mod_left]
  rw [Nat.mul_zero, if_pos hd]

/-- The exponent at which the value of a finite number is rounded is its own. -/
theorem exponent_of_eq_scaled {m : Nat} {e : Int} (h : IsCanonical m e) {n d : Nat} (hn : n ≠ 0)
    (hd : d ≠ 0) (hv : (n : ℚ) / d = scaled m e) :
    max (-1074) (floorLog2 n d - 52) = e := by
  obtain ⟨hlt, hmin, hmax, hnormal⟩ := h
  obtain ⟨hlow, hhigh⟩ := floorLog2_spec hn hd
  rw [hv, scaled_eq] at hlow hhigh
  have hpos : (0 : ℚ) < 2 ^ e := by positivity
  have hupper : (m : ℚ) * 2 ^ e < 2 ^ (52 + e + 1) := by
    rw [show (52 : ℤ) + e + 1 = ((53 : ℕ) : ℤ) + e by push_cast; ring, zpow_add₀ two_ne_zero,
      zpow_natCast]
    exact mul_lt_mul_of_pos_right (by exact_mod_cast hlt) hpos
  rcases hnormal with hnormal | hleast
  · have hlower : (2 : ℚ) ^ (52 + e) ≤ (m : ℚ) * 2 ^ e := by
      rw [show (52 : ℤ) + e = ((52 : ℕ) : ℤ) + e by push_cast; ring, zpow_add₀ two_ne_zero,
        zpow_natCast]
      exact mul_le_mul_of_nonneg_right (by exact_mod_cast hnormal) hpos.le
    have hf : floorLog2 n d = 52 + e := exponent_unique one_lt_two hlow hhigh hlower hupper
    omega
  · have hf : floorLog2 n d < 52 + e + 1 :=
      (zpow_lt_zpow_iff_right₀ one_lt_two).mp (lt_of_le_of_lt hlow hupper)
    omega

/-- **A quotient that is the value of a finite number is rounded to it.** -/
theorem ofRatio_of_eq_scaled (negative : Bool) {m : Nat} {e : Int} (h : IsCanonical m e)
    (hm : m ≠ 0) {n d : Nat} (hd : d ≠ 0) (hv : (n : ℚ) / d = scaled m e) :
    ofRatio negative n d = .finite negative m e h := by
  have hd' : (d : ℚ) ≠ 0 := by exact_mod_cast hd
  have hm' : (m : ℚ) ≠ 0 := by exact_mod_cast hm
  have hn : n ≠ 0 := by
    rintro rfl
    rw [Nat.cast_zero, zero_div, scaled_eq] at hv
    exact mul_ne_zero hm' (by positivity) hv.symm
  have hexp := exponent_of_eq_scaled h hn hd hv
  have hprod : (n : ℚ) = m * 2 ^ e * d := by
    rw [← scaled_eq, ← hv, div_mul_cancel₀ _ hd']
  -- at the exponent of the number the division has no remainder
  have hquotient : (if e ≥ 0 then roundQuotient n (d * Nat.pow 2 e.toNat)
      else roundQuotient (n * Nat.pow 2 (-e).toNat) d) = m := by
    split
    · next he =>
      obtain ⟨k, rfl⟩ := Int.eq_ofNat_of_zero_le he
      rw [zpow_natCast] at hprod
      have hnat : n = m * (d * 2 ^ k) := by
        have : (n : ℚ) = ((m * (d * 2 ^ k) : ℕ) : ℚ) := by rw [hprod]; push_cast; ring
        exact_mod_cast this
      rw [Int.toNat_natCast, Nat.pow_eq, hnat]
      exact roundQuotient_mul m (by positivity)
    · next he =>
      obtain ⟨k, hk⟩ := Int.eq_ofNat_of_zero_le (show 0 ≤ -e by omega)
      rw [show e = -(k : ℤ) by omega, zpow_neg, zpow_natCast] at hprod
      have hnat : n * 2 ^ k = m * d := by
        have : ((n * 2 ^ k : ℕ) : ℚ) = ((m * d : ℕ) : ℚ) := by
          push_cast
          rw [hprod]
          field_simp
        exact_mod_cast this
      rw [hk, Int.toNat_natCast, Nat.pow_eq, hnat]
      exact roundQuotient_mul m (Nat.pos_of_ne_zero hd)
  have hsmall : m ≠ Nat.pow 2 53 := Nat.ne_of_lt h.1
  simp only [ofRatio, if_neg hn, hexp, hquotient, if_neg hsmall, ofParts, dif_pos h]

/-! ## 4. Integers -/

/-- A positive integer below `2 ^ 53` has all the bits of a significand once it is shifted. -/
theorem exists_eq_scaled {n : Nat} (hn : n ≠ 0) (hlt : n < 2 ^ 53) :
    ∃ m e, IsCanonical m e ∧ m ≠ 0 ∧ (n : ℚ) / (1 : Nat) = scaled m e := by
  have hlog : n.log2 ≤ 52 := by
    have h := (Nat.log2_lt hn).mpr hlt
    omega
  obtain ⟨k, hk⟩ := Nat.exists_eq_add_of_le hlog
  have hpow : 2 ^ n.log2 * 2 ^ k = 2 ^ 52 := by rw [← Nat.pow_add, ← hk]
  have hleast : 2 ^ 52 ≤ n * 2 ^ k := by
    rw [← hpow]
    exact Nat.mul_le_mul_right _ (Nat.log2_self_le hn)
  have hmost : n * 2 ^ k < 2 ^ 53 := by
    have hnext : n < 2 ^ (n.log2 + 1) := Nat.lt_log2_self
    calc n * 2 ^ k < 2 ^ (n.log2 + 1) * 2 ^ k := Nat.mul_lt_mul_of_pos_right hnext (by positivity)
      _ = 2 ^ 53 := by rw [← Nat.pow_add, show n.log2 + 1 + k = 53 by omega]
  refine ⟨n * 2 ^ k, -k, ⟨hmost, by omega, by omega, Or.inl hleast⟩, by omega, ?_⟩
  rw [scaled_eq, zpow_neg, zpow_natCast]
  push_cast
  field_simp

/-- **An integer below `2 ^ 53` is kept exactly.** -/
theorem toRat?_ofInt {i : Int} (h : i.natAbs < 2 ^ 53) : (ofInt i).toRat? = some (i : ℚ) := by
  rcases eq_or_ne i 0 with rfl | hne
  · have hzero : ofInt 0 = zero false := rfl
    rw [hzero, zero, toRat?, scaled_eq]
    simp
  · obtain ⟨m, e, hcanonical, hm, hscaled⟩ := exists_eq_scaled (Int.natAbs_ne_zero.mpr hne) h
    rw [ofInt, ofRatio_of_eq_scaled _ hcanonical hm one_ne_zero hscaled, toRat?, ← hscaled,
      Nat.cast_natAbs, Nat.cast_one, div_one]
    rcases lt_or_gt_of_ne hne with hneg | hpos
    · rw [decide_eq_true hneg, if_pos rfl, abs_of_neg hneg, Int.cast_neg, neg_neg]
    · rw [decide_eq_false (not_lt.mpr hpos.le), if_neg Bool.false_ne_true, abs_of_pos hpos]

end Portcullis.Double
