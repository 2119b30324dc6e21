/-
# Times that can be written

Tokens hold the times of issue and end as integers, which are written only up to a number of digits.
The dates are far from that bound, and so are the readings of a clock that shows dates, although
these are binary64 numbers of which nothing is known here but that they are finite.

**Main statements.**  `Instant.dated_wholeSeconds` and `Instant.dated_stamp`.
-/
import Mathlib.Data.Nat.Digits.Defs
import Portcullis.Instant
import Portcullis.Json.Printer
import Portcullis.Proofs.Number.Rounding

namespace Portcullis

/-! ## 1. Bounds -/

/-- An integer below a power of ten has few digits. -/
theorem Json.integersFit_int {i : Int} (h : i.natAbs < 10 ^ Text.maxDigits) :
    integersFit (.int i) = true := by
  rw [integersFit, decide_eq_true_eq, Text.decimal, List.length_map]
  exact Nat.toDigits_length 10 i.natAbs Text.maxDigits (by decide) h

/-- A finite number is below the least power of two that is none. -/
theorem Double.abs_lt_of_toRat? {x : Double} {q : ℚ} (h : x.toRat? = some q) : |q| < 2 ^ 1024 := by
  cases x with
  | finite negative m e canonical =>
    have hm : m < 2 ^ 53 := canonical.1
    have he : e ≤ 971 := canonical.2.2.1
    have hscaled : (0 : ℚ) ≤ scaled m e := by
      rw [scaled_eq]
      positivity
    have habs : |q| = scaled m e := by
      rw [← Option.some.inj h]
      cases negative with
      | true => rw [if_pos rfl, abs_neg, abs_of_nonneg hscaled]
      | false => rw [if_neg Bool.false_ne_true, abs_of_nonneg hscaled]
    have hsignificand : (m : ℚ) < 2 ^ 53 := by exact_mod_cast hm
    have hexponent : (2 : ℚ) ^ e ≤ 2 ^ 971 := by
      have hle := zpow_le_zpow_right₀ (one_le_two : (1 : ℚ) ≤ 2) he
      exact_mod_cast hle
    calc |q| = (m : ℚ) * 2 ^ e := by rw [habs, scaled_eq]
      _ < 2 ^ 53 * 2 ^ e := mul_lt_mul_of_pos_right hsignificand (by positivity)
      _ ≤ 2 ^ 53 * 2 ^ 971 := mul_le_mul_of_nonneg_left hexponent (by positivity)
      _ = 2 ^ 1024 := (pow_add 2 53 971).symm
  | _ => cases h

namespace Instant

/-- The whole seconds lie between the instant and zero. -/
theorem natAbs_wholeSeconds_le (t : Instant) : ((wholeSeconds t).natAbs : ℚ) ≤ |t| := by
  rw [wholeSeconds]
  split
  · next h =>
    have hfloor : 0 ≤ t.floor := Rat.le_floor_iff.mpr (by exact_mod_cast h)
    rw [abs_of_nonneg h, ← Int.cast_natCast, Int.natAbs_of_nonneg hfloor]
    exact Rat.floor_le t
  · next h =>
    have hneg : t < 0 := lt_of_not_ge h
    have hfloor : 0 ≤ (-t).floor := Rat.le_floor_iff.mpr (by push_cast; linarith)
    rw [abs_of_neg hneg, Int.natAbs_neg, ← Int.cast_natCast, Int.natAbs_of_nonneg hfloor]
    exact Rat.floor_le (-t)

/-! ## 2. Dates -/

/-- Seconds are written down so that the second of an instant with a date can be written. -/
def Dated (stamp : Instant → Int) : Prop :=
  ∀ t, hasDate t = true → (stamp t).natAbs < 10 ^ Text.maxDigits

theorem abs_lt_of_hasDate {t : Instant} (h : hasDate t = true) : |t| < 253402300801 := by
  rw [hasDate, Bool.and_eq_true, decide_eq_true_eq, decide_eq_true_eq, earliest, latest] at h
  rw [abs_lt]
  constructor <;> linarith [h.1, h.2]

/-- An instant between powers of two that are not too high can be written in whole seconds. -/
theorem natAbs_wholeSeconds_lt {t : Instant} {n : Nat} (hn : n ≤ Text.maxDigits)
    (h : |t| < 2 ^ n) : (wholeSeconds t).natAbs < 10 ^ Text.maxDigits := by
  have hlt : (wholeSeconds t).natAbs < 2 ^ n := by
    have hle := (natAbs_wholeSeconds_le t).trans_lt h
    exact_mod_cast hle
  calc (wholeSeconds t).natAbs < 2 ^ n := hlt
    _ ≤ 10 ^ n := Nat.pow_le_pow_left (by decide) n
    _ ≤ 10 ^ Text.maxDigits := Nat.pow_le_pow_right (by decide) hn

/-- The dates are far nearer to zero than the greatest binary64 numbers. -/
theorem dates_lt : (253402300801 : ℚ) < 2 ^ 1024 :=
  calc (253402300801 : ℚ) < 2 ^ 64 := by norm_num
    _ ≤ 2 ^ 1024 := pow_le_pow_right₀ one_le_two (by decide)

theorem dated_wholeSeconds : Dated wholeSeconds := fun _ h =>
  natAbs_wholeSeconds_lt (by decide) ((abs_lt_of_hasDate h).trans dates_lt)

/-- A binary64 number, or what stands in its place if it is not finite, is below a bound. -/
theorem abs_getD_lt {bound : ℚ} (hbound : 2 ^ 1024 ≤ bound) (x : Double) {q : ℚ}
    (hq : |q| < bound) : |x.toRat?.getD q| < bound := by
  cases hx : x.toRat? with
  | none => exact hq
  | some r => exact (Double.abs_lt_of_toRat? hx).trans_le hbound

/-- A number rounded to an integer next to it. -/
theorem abs_round_le (q : ℚ) (up : Bool) :
    |((if up then q.floor + 1 else q.floor : Int) : ℚ)| ≤ |q| + 1 := by
  have hle : (q.floor : ℚ) ≤ q := Rat.floor_le q
  have hlt : q - 1 < q.floor := Rat.lt_floor
  obtain ⟨hlow, hhigh⟩ := abs_le.mp (le_refl |q|)
  rw [abs_le]
  cases up with
  | true =>
    rw [if_pos rfl, Int.cast_add, Int.cast_one]
    constructor <;> linarith
  | false =>
    rw [if_neg Bool.false_ne_true]
    constructor <;> linarith

/-- Rounding to microseconds leaves an instant with a date near enough to zero. -/
theorem abs_toMicroseconds_lt {t : Instant} (h : hasDate t = true) :
    |toMicroseconds t| < 2 ^ 1025 := by
  have hwhole : |(wholeSeconds t : ℚ)| < 253402300801 := by
    rw [← Int.cast_abs, Int.abs_eq_natAbs, Int.cast_natCast]
    exact (natAbs_wholeSeconds_le t).trans_lt (abs_lt_of_hasDate h)
  have hscaled := abs_getD_lt le_rfl (Double.ofRat ((t - wholeSeconds t) * 1000000))
    (q := 0) (by rw [abs_zero]; positivity)
  have hdates := dates_lt
  unfold toMicroseconds
  generalize (Double.ofRat ((t - wholeSeconds t) * 1000000)).toRat?.getD 0 = scaled at hscaled
  rw [show (2 : ℚ) ^ 1025 = 2 ^ 1024 * 2 from pow_succ 2 1024]
  -- As a number the bound would be evaluated.
  generalize (2 : ℚ) ^ 1024 = bound at hscaled hdates
  refine (abs_add_le _ _).trans_lt ?_
  rw [abs_div, abs_of_pos (by norm_num : (0 : ℚ) < 1000000)]
  have hround (up : Bool) := div_le_div_of_nonneg_right (abs_round_le scaled up)
    (by norm_num : (0 : ℚ) ≤ 1000000)
  refine (add_le_add le_rfl (hround _)).trans_lt ?_
  linarith

/-- The second of a reading, which is that of a binary64 number, can be written. -/
theorem dated_stamp : Dated stamp := by
  intro t h
  have hbound : (2 : ℚ) ^ 1024 ≤ 2 ^ 1025 := pow_le_pow_right₀ one_le_two (by decide)
  exact natAbs_wholeSeconds_lt (by decide) (abs_getD_lt hbound _ (abs_toMicroseconds_lt h))

end Instant

end Portcullis
