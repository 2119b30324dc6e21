/-
# A written number reads back

Reading a decimal as a binary64 number depends on nothing but its value (`toDouble_congr`): the same
value with more or fewer zeros is the same number.  The decimal that is written for a finite number
is one that was tried and read back, or else the exact value, which reads back as well.

**Main statement.**  `toDouble_shortest`.
-/
import Mathlib.Tactic.NormNum
import Portcullis.Number.Shortest
import Portcullis.Proofs.Number.Rounding

namespace Portcullis.Decimal

/-! ## 1. Values -/

/-- The exact value of digits and an exponent. -/
theorem toRat_eq (d : Decimal) : d.toRat = (d.digits : ℚ) * 10 ^ d.exponent := by
  rw [toRat]
  split
  · next h =>
    obtain ⟨k, hk⟩ := Int.eq_ofNat_of_zero_le h
    rw [hk, Int.toNat_natCast, Nat.pow_eq, zpow_natCast]
    push_cast
    rfl
  · next h =>
    obtain ⟨k, hk⟩ := Int.eq_ofNat_of_zero_le (show 0 ≤ -d.exponent by omega)
    rw [hk, Int.toNat_natCast, Nat.pow_eq, Rat.mkRat_eq_div,
      show d.exponent = -(k : ℤ) by omega, zpow_neg, zpow_natCast]
    push_cast
    rfl

theorem toRat_eq_zero_iff (d : Decimal) : d.toRat = 0 ↔ d.digits = 0 := by
  have hpow : (10 : ℚ) ^ d.exponent ≠ 0 := by positivity
  rw [toRat_eq, mul_eq_zero, or_iff_left hpow, Nat.cast_eq_zero]

theorem toRat_nonneg (d : Decimal) : 0 ≤ d.toRat := by
  rw [toRat_eq]
  positivity

/-- A positive number has so many digits as it takes a power of ten to exceed it. -/
theorem digitCount_spec {n : Nat} (hn : n ≠ 0) :
    10 ^ (digitCount n - 1) ≤ n ∧ n < 10 ^ digitCount n := by
  have hpos : 0 < digitCount n := Nat.length_toDigits_pos
  constructor
  · by_contra hlt
    have hlt' : n < 10 ^ (digitCount n - 1) := Nat.lt_of_not_le hlt
    rcases Nat.eq_zero_or_pos (digitCount n - 1) with h0 | h0
    · rw [h0, pow_zero] at hlt'
      omega
    · have hle : digitCount n ≤ digitCount n - 1 :=
        (Nat.length_toDigits_le_iff (by norm_num) h0).mpr hlt'
      omega
  · exact (Nat.length_toDigits_le_iff (by norm_num) hpos).mp (Nat.le_refl _)

/-- The power of ten above the leading digit. -/
def magnitude (d : Decimal) : Int := digitCount d.digits + d.exponent

/-- The magnitude brackets the value. -/
theorem magnitude_spec {d : Decimal} (hd : d.digits ≠ 0) :
    (10 : ℚ) ^ (d.magnitude - 1) ≤ d.toRat ∧ d.toRat < 10 ^ (d.magnitude - 1 + 1) := by
  obtain ⟨hlow, hhigh⟩ := digitCount_spec hd
  have hpos : 0 < digitCount d.digits := Nat.length_toDigits_pos
  have hpow : (0 : ℚ) < 10 ^ d.exponent := by positivity
  have ten : (10 : ℚ) ≠ 0 := by norm_num
  rw [toRat_eq]
  constructor
  · rw [magnitude, show (digitCount d.digits : ℤ) + d.exponent - 1
        = ((digitCount d.digits - 1 : ℕ) : ℤ) + d.exponent by omega, zpow_add₀ ten, zpow_natCast]
    exact mul_le_mul_of_nonneg_right (by exact_mod_cast hlow) hpow.le
  · rw [magnitude, sub_add_cancel, zpow_add₀ ten, zpow_natCast]
    exact mul_lt_mul_of_pos_right (by exact_mod_cast hhigh) hpow

theorem magnitude_congr {d d' : Decimal} (hd : d.digits ≠ 0) (h : d.toRat = d'.toRat) :
    d.magnitude = d'.magnitude := by
  have hd' : d'.digits ≠ 0 := by rwa [Ne, ← toRat_eq_zero_iff, ← h, toRat_eq_zero_iff]
  obtain ⟨hlow, hhigh⟩ := magnitude_spec hd
  obtain ⟨hlow', hhigh'⟩ := magnitude_spec hd'
  rw [← h] at hlow' hhigh'
  have := Double.exponent_unique (by norm_num) hlow hhigh hlow' hhigh'
  omega

/-- **The value decides which number a decimal is read as.** -/
theorem toDouble_congr (negative : Bool) {d d' : Decimal} (h : d.toRat = d'.toRat) :
    d.toDouble negative = d'.toDouble negative := by
  by_cases hd : d.digits = 0
  · have hd' : d'.digits = 0 := by rwa [← toRat_eq_zero_iff, ← h, toRat_eq_zero_iff]
    rw [toDouble, toDouble, if_pos hd, if_pos hd']
  · have hd' : d'.digits ≠ 0 := by rwa [Ne, ← toRat_eq_zero_iff, ← h, toRat_eq_zero_iff]
    have hm : (digitCount d.digits : ℤ) + d.exponent = digitCount d'.digits + d'.exponent :=
      magnitude_congr hd h
    rw [toDouble, toDouble, if_neg hd, if_neg hd']
    simp only [hm, h]

/-- Dropping a zero at the end of the digits keeps the value. -/
theorem toRat_trimmed_go (n : Nat) (d : Decimal) : (trimmed.go n d).toRat = d.toRat := by
  induction n generalizing d with
  | zero => rfl
  | succ n ih =>
    rw [trimmed.go]
    split
    · next h =>
      obtain ⟨k, hk⟩ := Nat.dvd_of_mod_eq_zero h.2
      rw [ih, toRat_eq, toRat_eq, hk, Nat.mul_div_cancel_left k (by norm_num),
        zpow_add_one₀ (by norm_num)]
      push_cast
      ring
    · rfl

theorem toRat_trimmed (d : Decimal) : d.trimmed.toRat = d.toRat := toRat_trimmed_go _ d

end Portcullis.Decimal

namespace Portcullis.Double

open Decimal

/-! ## 2. The exact value -/

theorem toRat_exactDecimal (m : Nat) (e : Int) : (exactDecimal m e).toRat = scaled m e := by
  rw [toRat_eq, scaled_eq, exactDecimal]
  split
  · next h =>
    obtain ⟨k, rfl⟩ := Int.eq_ofNat_of_zero_le h
    rw [Int.toNat_natCast, Nat.pow_eq, zpow_natCast, zpow_zero, mul_one]
    push_cast
    rfl
  · next h =>
    obtain ⟨k, hk⟩ := Int.eq_ofNat_of_zero_le (show 0 ≤ -e by omega)
    have hten : (10 : ℚ) ^ k = 2 ^ k * 5 ^ k := by rw [← mul_pow]; norm_num
    rw [hk, Int.toNat_natCast, Nat.pow_eq, show e = -(k : ℤ) by omega, zpow_neg, zpow_neg,
      zpow_natCast, zpow_natCast, hten]
    push_cast
    field_simp

/-- The least power of two is above what is read as zero, in units of its inverse. -/
theorem two_pow_le_ten_pow : 2 ^ 1074 ≤ 10 ^ 330 := by decide +kernel

/-- The power of two above all finite numbers is below what is read as infinity. -/
theorem two_pow_lt_ten_pow : 2 ^ 1024 < 10 ^ 310 := by decide +kernel

/-- The value of a finite number that is not zero is far from what is read as zero or infinity. -/
theorem scaled_bounds {m : Nat} {e : Int} (h : IsCanonical m e) (hm : m ≠ 0) :
    (10 : ℚ) ^ (-330 : ℤ) ≤ scaled m e ∧ scaled m e < 10 ^ (310 : ℤ) := by
  obtain ⟨hlt, hmin, hmax, -⟩ := h
  have hpos : (0 : ℚ) < 2 ^ e := by positivity
  have hone : (1 : ℚ) ≤ m := by exact_mod_cast Nat.one_le_iff_ne_zero.mpr hm
  have hlt' : (m : ℚ) < 2 ^ (53 : ℤ) := by exact_mod_cast hlt
  rw [scaled_eq]
  constructor
  · have hleast : (10 : ℚ) ^ (-((330 : ℕ) : ℤ)) ≤ 2 ^ (-((1074 : ℕ) : ℤ)) := by
      rw [zpow_neg, zpow_neg, zpow_natCast, zpow_natCast]
      exact inv_anti₀ (by positivity) (by exact_mod_cast two_pow_le_ten_pow)
    calc (10 : ℚ) ^ (-330 : ℤ) ≤ 2 ^ (-1074 : ℤ) := hleast
      _ ≤ 2 ^ e := zpow_le_zpow_right₀ one_le_two hmin
      _ = 1 * 2 ^ e := (one_mul _).symm
      _ ≤ m * 2 ^ e := mul_le_mul_of_nonneg_right hone hpos.le
  · have hgreatest : (2 : ℚ) ^ ((1024 : ℕ) : ℤ) < 10 ^ ((310 : ℕ) : ℤ) := by
      rw [zpow_natCast, zpow_natCast]
      exact_mod_cast two_pow_lt_ten_pow
    calc (m : ℚ) * 2 ^ e < 2 ^ (53 : ℤ) * 2 ^ e := mul_lt_mul_of_pos_right hlt' hpos
      _ = 2 ^ (53 + e) := (zpow_add₀ two_ne_zero _ _).symm
      _ ≤ 2 ^ (1024 : ℤ) := zpow_le_zpow_right₀ one_le_two (by omega)
      _ < 10 ^ (310 : ℤ) := hgreatest

/-- A decimal with the value of a finite number is read as that number. -/
theorem toDouble_of_toRat_eq (negative : Bool) {m : Nat} {e : Int} (h : IsCanonical m e)
    (hm : m ≠ 0) {d : Decimal} (hd : d.toRat = scaled m e) :
    d.toDouble negative = .finite negative m e h := by
  obtain ⟨hlow, hhigh⟩ := scaled_bounds h hm
  have hdigits : d.digits ≠ 0 := by
    rw [Ne, ← toRat_eq_zero_iff, hd]
    exact (lt_of_lt_of_le (by positivity) hlow).ne'
  obtain ⟨hmag, hmag'⟩ := magnitude_spec hdigits
  rw [hd] at hmag hmag'
  have ten : (1 : ℚ) < 10 := by norm_num
  have h₁ : d.magnitude - 1 < 310 :=
    (zpow_lt_zpow_iff_right₀ ten).mp (lt_of_le_of_lt hmag hhigh)
  have h₂ : -330 < d.magnitude - 1 + 1 :=
    (zpow_lt_zpow_iff_right₀ ten).mp (lt_of_le_of_lt hlow hmag')
  have hinf : ¬ (digitCount d.digits : ℤ) + d.exponent > 310 := by
    rw [magnitude] at h₁; omega
  have hzero : ¬ (digitCount d.digits : ℤ) + d.exponent < -330 := by
    rw [magnitude] at h₂; omega
  rw [toDouble, if_neg hdigits]
  simp only [if_neg hinf, if_neg hzero]
  refine ofRatio_of_eq_scaled negative h hm d.toRat.den_nz ?_
  have hnum : ((d.toRat.num.natAbs : ℤ) : ℚ) = (d.toRat.num : ℚ) :=
    congrArg _ (Int.natAbs_of_nonneg (Rat.num_nonneg.mpr d.toRat_nonneg))
  rw [← Int.cast_natCast (R := ℚ), hnum, Rat.num_div_den, hd]

/-! ## 3. The written decimal -/

/-- A decimal that is found with a given number of digits reads back. -/
theorem toDouble_of_withDigits? {x : Double} {negative : Bool} {value : Rat} {count : Nat}
    {d : Decimal} (h : withDigits? x negative value count = some d) : d.toDouble negative = x := by
  have hreads : ∀ {d : Decimal}, readsBack x negative d = true → d.toDouble negative = x :=
    fun h => by simpa [readsBack] using h
  simp only [withDigits?] at h
  split at h
  · next hbelow habove =>
    rw [Option.some.injEq, nearer] at h
    subst h
    split
    · exact hreads hbelow
    · split
      · exact hreads habove
      · split
        · exact hreads hbelow
        · exact hreads habove
  · next hbelow _ => rw [Option.some.injEq] at h; subst h; exact hreads hbelow
  · next _ habove => rw [Option.some.injEq] at h; subst h; exact hreads habove
  · exact absurd h (by simp)

/-- **The decimal that is written for a finite number reads back as that number.** -/
theorem toDouble_shortest (negative : Bool) (m : Nat) (e : Int) (h : IsCanonical m e) :
    (shortest negative m e h).toDouble negative = .finite negative m e h := by
  rw [shortest]
  split
  · next hm =>
    subst hm
    have he : e = -1074 := by
      rcases h.2.2.2 with h0 | he
      · exact absurd h0 (by norm_num)
      · exact he
    subst he
    rfl
  · next hm =>
    rw [toDouble_congr negative (toRat_trimmed _)]
    cases hfound : (List.range 17).findSome? fun n =>
        withDigits? (.finite negative m e h) negative (scaled m e) (n + 1) with
    | none => exact toDouble_of_toRat_eq negative h hm (toRat_exactDecimal m e)
    | some d =>
      obtain ⟨n, -, hn⟩ := List.exists_of_findSome?_eq_some hfound
      exact toDouble_of_withDigits? hn

/-- Only zero is written with the digit zero alone, and without an exponent. -/
theorem exponent_shortest {negative : Bool} {m : Nat} {e : Int} {h : IsCanonical m e}
    (hd : (shortest negative m e h).digits = 0) : (shortest negative m e h).exponent = 0 := by
  have hback := toDouble_shortest negative m e h
  rw [Decimal.toDouble, if_pos hd, zero, Double.finite.injEq] at hback
  rw [shortest, if_pos hback.2.1.symm]

end Portcullis.Double
