/-
# Printed numbers are read back

Integers and finite binary64 numbers are printed as spelled numerals, an integer without point and
power and a binary64 number with at least one of them, so that the value of the numeral is what was
printed.

**Main statements.**  `ofInt_eq` and `printDouble_eq`.
-/
import Portcullis.Json.Printer
import Portcullis.Proofs.Json.Numeral
import Portcullis.Proofs.Number.Shortest

namespace Portcullis.Json

open Text

/-! ## 1. Integers -/

/-- The parts of an integer. -/
def integerNumeral (i : Int) : Numeral := ⟨i < 0, digitsOf i.natAbs, [], none⟩

/-- The digits of a number begin with a zero only when it is alone. -/
theorem lead_digitsOf (n : Nat) : (digitsOf n).length = 1 ∨ (digitsOf n).head? ≠ some 0 := by
  by_cases hn : n = 0
  · exact Or.inl (by rw [hn, digitsOf_of_lt (by norm_num)]; rfl)
  · exact Or.inr (head?_digitsOf hn)

theorem integerNumeral_wellFormed (i : Int) : (integerNumeral i).WellFormed where
  whole_ne_nil := digitsOf_ne_nil _
  lead := lead_digitsOf _
  whole_lt := digitsOf_lt _
  fraction_lt := fun _ h => absurd h List.not_mem_nil

theorem spelled_integerNumeral (i : Int) : (integerNumeral i).spelled = Text.ofInt i := by
  have hminus : ("-" : Text) = [minus] := by decide
  cases i with
  | ofNat n =>
    have hneg : ¬ (n : Int) < 0 := by omega
    simp only [integerNumeral, Numeral.spelled, Text.ofInt, decimal_eq, exponentText,
      Int.ofNat_eq_natCast, hneg, decide_false, Bool.false_eq_true, if_false, if_true,
      List.nil_append, List.append_nil, Int.natAbs_natCast]
  | negSucc n =>
    simp only [integerNumeral, Numeral.spelled, Text.ofInt, decimal_eq, exponentText, hminus,
      Int.negSucc_lt_zero, decide_true, if_true, List.append_nil, Int.natAbs_negSucc,
      Nat.succ_eq_add_one]

/-- The parts of an integer that is not too long are read as that integer. -/
theorem value_integerNumeral {i : Int} (h : (Json.int i).integersFit = true) :
    (integerNumeral i).value = .ok (.int i) := by
  rw [integersFit, decide_eq_true_eq, decimal_eq, length_ofDigitValues] at h
  simp only [integerNumeral, Numeral.value, List.isEmpty_nil, Option.isNone_none, Bool.and_self,
    if_true, Nat.not_lt.mpr h, if_false, ofDigits_digitsOf, decide_eq_true_eq, Except.ok.injEq,
    Json.int.injEq]
  split
  · omega
  · omega

/-- **An integer that is not too long is printed as a numeral of that value.** -/
theorem ofInt_eq {i : Int} (h : (Json.int i).integersFit = true) :
    ∃ n : Numeral, n.WellFormed ∧ n.spelled = Text.ofInt i ∧ n.value = .ok (.int i) :=
  ⟨integerNumeral i, integerNumeral_wellFormed i, spelled_integerNumeral i, value_integerNumeral h⟩

/-! ## 2. Decimals -/

/-- The parts in which a decimal is written. -/
def decimalNumeral (negative : Bool) (d : Decimal) : Numeral :=
  let digits := digitsOf d.digits
  let place := digits.length + d.exponent
  if -4 < place ∧ place ≤ 16 then
    if place ≤ 0 then ⟨negative, [0], List.replicate (-place).toNat 0 ++ digits, none⟩
    else if digits.length ≤ place then
      ⟨negative, digits ++ List.replicate (place.toNat - digits.length) 0, [0], none⟩
    else ⟨negative, digits.take place.toNat, digits.drop place.toNat, none⟩
  else ⟨negative, digits.take 1, digits.drop 1, some (place - 1)⟩

theorem ofDigitValues_take (ds : List Nat) (n : Nat) :
    ofDigitValues (ds.take n) = (ofDigitValues ds).take n := List.map_take

theorem ofDigitValues_drop (ds : List Nat) (n : Nat) :
    ofDigitValues (ds.drop n) = (ofDigitValues ds).drop n := List.map_drop

/-- Digits with the power of ten behind them, as they are spelled. -/
theorem exponential_ofDigitValues (ds : List Nat) (power : Int) :
    Decimal.exponential (ofDigitValues ds) power
      = ofDigitValues (ds.take 1)
        ++ ((if ds.drop 1 = [] then [] else point :: ofDigitValues (ds.drop 1))
          ++ exponentText (some power)) := by
  have hpoint : ("." : Text) = [point] := by decide
  have hsign : Text.ofString (if power < 0 then "e-" else "e+")
      = [CodePoint.ofChar 'e', if power < 0 then minus else CodePoint.ofChar '+'] := by
    split
    · decide
    · decide
  simp only [Decimal.exponential, exponentText, hsign, hpoint, decimal_eq, zeros_eq,
    length_ofDigitValues, ofDigitValues_append, List.drop_eq_nil_iff]
  by_cases hlen : ds.length ≤ 1
  · simp only [if_pos hlen, List.take_of_length_le hlen, List.cons_append, List.nil_append,
      List.append_assoc]
  · simp only [if_neg hlen, ofDigitValues_take, ofDigitValues_drop, List.cons_append,
      List.nil_append, List.append_assoc]

/-- A decimal is written as its parts are spelled. -/
theorem spelled_decimalNumeral (negative : Bool) (d : Decimal) :
    (decimalNumeral negative d).spelled
      = (if negative then ("-" : Text) else []) ++ d.text := by
  have hminus : ("-" : Text) = [minus] := by decide
  have hzero : ("0." : Text) = ofDigitValues [0] ++ [point] := by decide
  have hend : (".0" : Text) = point :: ofDigitValues [0] := by decide
  have hpoint : ("." : Text) = [point] := by decide
  have hne : digitsOf d.digits ≠ [] := digitsOf_ne_nil _
  rw [hminus]
  unfold Numeral.spelled Decimal.text decimalNumeral
  simp only [decimal_eq, length_ofDigitValues]
  generalize digitsOf d.digits = ds at hne
  by_cases hplain : -4 < (ds.length : Int) + d.exponent ∧ (ds.length : Int) + d.exponent ≤ 16
  · simp only [if_pos hplain, Decimal.positional, length_ofDigitValues, hzero, hend, hpoint,
      zeros_eq]
    by_cases hle : (ds.length : Int) + d.exponent ≤ 0
    · simp only [if_pos hle, List.append_eq_nil_iff, hne, and_false, if_false, exponentText,
        ofDigitValues_append, List.append_nil, List.append_assoc, List.cons_append,
        List.nil_append]
    by_cases hlen : (ds.length : Int) ≤ (ds.length : Int) + d.exponent
    · simp only [if_neg hle, if_pos hlen, reduceCtorEq, if_false, exponentText,
        ofDigitValues_append, List.append_nil, List.append_assoc]
    · have hdrop : ¬ ds.length ≤ ((ds.length : Int) + d.exponent).toNat := by omega
      simp only [if_neg hle, if_neg hlen, List.drop_eq_nil_iff, if_neg hdrop, exponentText,
        ofDigitValues_take, ofDigitValues_drop, List.append_nil, List.append_assoc,
        List.cons_append, List.nil_append]
  · simp only [if_neg hplain, exponential_ofDigitValues]

/-! ## 3. The layouts of a decimal -/

/-- What holds of the four layouts holds of what is written: zeros may stand before the digits or
behind them, a point among them, or a power of ten after the first. -/
theorem decimalNumeral_cases {motive : Numeral → Prop} (negative : Bool) (d : Decimal)
    (small : ∀ zeros : Nat, (zeros : Int) + ((digitsOf d.digits).length + d.exponent) = 0 →
      motive ⟨negative, [0], List.replicate zeros 0 ++ digitsOf d.digits, none⟩)
    (whole : ∀ zeros : Nat, d.exponent = zeros →
      motive ⟨negative, digitsOf d.digits ++ List.replicate zeros 0, [0], none⟩)
    (among : ∀ place : Nat, 0 < place → place < (digitsOf d.digits).length →
      (place : Int) = (digitsOf d.digits).length + d.exponent →
      motive ⟨negative, (digitsOf d.digits).take place, (digitsOf d.digits).drop place, none⟩)
    (power : motive ⟨negative, (digitsOf d.digits).take 1, (digitsOf d.digits).drop 1,
      some ((digitsOf d.digits).length + d.exponent - 1)⟩) :
    motive (decimalNumeral negative d) := by
  unfold decimalNumeral
  simp only
  generalize digitsOf d.digits = ds at small whole among power ⊢
  split
  · split
    · next hle =>
      obtain ⟨zeros, hzeros⟩ :=
        Int.eq_ofNat_of_zero_le (show 0 ≤ -((ds.length : Int) + d.exponent) by omega)
      rw [hzeros, Int.toNat_natCast]
      exact small zeros (by omega)
    split
    · next hpositive hle =>
      obtain ⟨zeros, hzeros⟩ := Int.eq_ofNat_of_zero_le (show 0 ≤ d.exponent by omega)
      have hcount : ((ds.length : Int) + d.exponent).toNat - ds.length = zeros := by omega
      rw [hcount]
      exact whole zeros hzeros
    · next hpositive hle => exact among _ (by omega) (by omega) (by omega)
  · exact power

/-- Zeros that stand before or behind digits are digits. -/
theorem lt_of_mem_zeros {n k : Nat} (h : n ∈ List.replicate k 0) : n < 10 := by
  rw [(List.mem_replicate.mp h).2]
  norm_num

/-- The first of some digits is the first of all of them. -/
theorem head?_take_of_pos {ds : List Nat} {n : Nat} (h : 0 < n) :
    (ds.take n).head? = ds.head? := by
  rw [List.head?_take, if_neg (Nat.ne_of_gt h)]

/-- A decimal whose zero has no power of ten is written in parts that fit. -/
theorem decimalNumeral_wellFormed (negative : Bool) {d : Decimal}
    (hd : d.digits = 0 → d.exponent = 0) : (decimalNumeral negative d).WellFormed := by
  have hne : digitsOf d.digits ≠ [] := digitsOf_ne_nil _
  have hlt : ∀ n ∈ digitsOf d.digits, n < 10 := digitsOf_lt _
  have hpos : 0 < (digitsOf d.digits).length := List.length_pos_iff.mpr hne
  have hlead : d.exponent = 0 ∧ (digitsOf d.digits).length = 1
      ∨ (digitsOf d.digits).head? ≠ some 0 := by
    rcases lead_digitsOf d.digits with h | h
    · by_cases h0 : d.digits = 0
      · exact Or.inl ⟨hd h0, h⟩
      · exact Or.inr (head?_digitsOf h0)
    · exact Or.inr h
  apply decimalNumeral_cases
  case small =>
    intro zeros _
    refine ⟨List.cons_ne_nil _ _, Or.inl rfl, by simp, ?_⟩
    intro n hn
    rcases List.mem_append.mp hn with hn | hn
    · exact lt_of_mem_zeros hn
    · exact hlt n hn
  case whole =>
    intro zeros hzeros
    refine ⟨fun h => hne (List.append_eq_nil_iff.mp h).1, ?_, ?_, by simp⟩
    · rcases hlead with ⟨hexponent, hlength⟩ | hhead
      · left
        rw [List.length_append, List.length_replicate]
        omega
      · right
        rwa [List.head?_append_of_ne_nil _ hne]
    · intro n hn
      rcases List.mem_append.mp hn with hn | hn
      · exact hlt n hn
      · exact lt_of_mem_zeros hn
  case among =>
    intro place hplace hlength heq
    refine ⟨?_, ?_, ?_, ?_⟩
    · rw [Ne, List.take_eq_nil_iff, not_or]
      exact ⟨Nat.ne_of_gt hplace, hne⟩
    · rcases hlead with ⟨hexponent, -⟩ | hhead
      · exact absurd hlength (by omega)
      · right
        rwa [head?_take_of_pos hplace]
    · exact fun n hn => hlt n (List.mem_of_mem_take hn)
    · exact fun n hn => hlt n (List.mem_of_mem_drop hn)
  case power =>
    refine ⟨?_, Or.inl ?_, ?_, ?_⟩
    · rw [Ne, List.take_eq_nil_iff, not_or]
      exact ⟨one_ne_zero, hne⟩
    · rw [List.length_take]
      omega
    · exact fun n hn => hlt n (List.mem_of_mem_take hn)
    · exact fun n hn => hlt n (List.mem_of_mem_drop hn)

/-- A numeral with a fraction or a power has the value of every decimal that is the same number. -/
theorem Numeral.value_of_toRat_eq {n : Numeral} {d : Decimal}
    (form : n.fraction = [] → n.exponent ≠ none)
    (number : (⟨ofDigits (n.whole ++ n.fraction), n.exponent.getD 0 - n.fraction.length⟩ :
      Decimal).toRat = d.toRat) : n.value = .ok (.num (d.toDouble n.negative)) := by
  have hno : (n.fraction.isEmpty && n.exponent.isNone) = false := by
    rw [Bool.and_eq_false_iff, List.isEmpty_eq_false_iff, Option.isNone_eq_false_iff,
      Option.isSome_iff_ne_none]
    by_cases hnil : n.fraction = []
    · exact Or.inr (form hnil)
    · exact Or.inl hnil
  rw [Numeral.value, hno, if_neg Bool.false_ne_true, Decimal.toDouble_congr n.negative number]

/-- Zeros behind the digits of a number, one of them behind the point, are its power of ten. -/
theorem toRat_zeros {ds : List Nat} {d : Decimal} (hdigits : ofDigits ds = d.digits) {zeros : Nat}
    (hzeros : d.exponent = zeros) :
    (⟨ofDigits ((ds ++ List.replicate zeros 0) ++ [0]), 0 - ((1 : Nat) : Int)⟩ : Decimal).toRat
      = d.toRat := by
  have hofDigits :
      ofDigits ((ds ++ List.replicate zeros 0) ++ [0]) = d.digits * 10 ^ (zeros + 1) := by
    rw [ofDigits_append, ofDigits_append, ofDigits_replicate_zero, hdigits,
      List.length_replicate, Nat.add_zero, pow_succ, Nat.mul_assoc]
    rfl
  have hpow : (10 : ℚ) ^ (zeros + 1) * 10 ^ ((0 : Int) - ((1 : Nat) : Int))
      = 10 ^ (zeros : Int) := by
    rw [← zpow_natCast, ← zpow_add₀ (by norm_num)]
    congr 1
    omega
  rw [Decimal.toRat_eq, Decimal.toRat_eq, hofDigits, hzeros, Nat.cast_mul, mul_assoc,
    Nat.cast_pow, Nat.cast_ofNat, hpow]

/-- The numeral of a decimal has its value and is no integer. -/
theorem value_decimalNumeral (negative : Bool) (d : Decimal) :
    (decimalNumeral negative d).value = .ok (.num (d.toDouble negative)) := by
  have hdigits : ofDigits (digitsOf d.digits) = d.digits := ofDigits_digitsOf _
  have hne : digitsOf d.digits ≠ [] := digitsOf_ne_nil _
  have hself : ∀ (digits : Nat) (exponent : Int), digits = d.digits → exponent = d.exponent →
      (⟨digits, exponent⟩ : Decimal).toRat = d.toRat := by
    rintro _ _ rfl rfl
    rfl
  apply decimalNumeral_cases
    (motive := fun n => n.value = .ok (.num (d.toDouble negative)))
  case small =>
    intro zeros hzeros
    refine Numeral.value_of_toRat_eq ?_ (hself _ _ ?_ ?_)
    · exact fun h => absurd (List.append_eq_nil_iff.mp h).2 hne
    · simp only [ofDigits_append, ofDigits_replicate_zero, hdigits]
      simp [ofDigits]
    · simp only [Option.getD_none, List.length_append, List.length_replicate]
      omega
  case whole =>
    -- The one layout in which the numeral has more digits than the decimal.
    intro zeros hzeros
    refine Numeral.value_of_toRat_eq ?_ (toRat_zeros hdigits hzeros)
    exact fun h => absurd h (List.cons_ne_nil _ _)
  case among =>
    intro place _ hlength heq
    refine Numeral.value_of_toRat_eq ?_ (hself _ _ ?_ ?_)
    · exact fun h => absurd (List.drop_eq_nil_iff.mp h) (Nat.not_le.mpr hlength)
    · rw [List.take_append_drop, hdigits]
    · simp only [Option.getD_none, List.length_drop]
      omega
  case power =>
    have hpos : 0 < (digitsOf d.digits).length := List.length_pos_iff.mpr hne
    refine Numeral.value_of_toRat_eq ?_ (hself _ _ ?_ ?_)
    · exact fun _ => Option.some_ne_none _
    · rw [List.take_append_drop, hdigits]
    · simp only [Option.getD_some, List.length_drop]
      omega

/-! ## 4. Binary64 numbers -/

/-- **A finite number is printed as a numeral of that value.** -/
theorem printDouble_eq {x : Double} (hx : (Json.num x).isFinite) :
    ∃ n : Numeral, n.WellFormed ∧ n.spelled = printDouble x ∧ n.value = .ok (.num x) := by
  cases x with
  | notANumber => exact absurd hx Bool.false_ne_true
  | infinite negative => exact absurd hx Bool.false_ne_true
  | finite negative m e h =>
    refine ⟨decimalNumeral negative (Double.shortest negative m e h), ?_, ?_, ?_⟩
    · exact decimalNumeral_wellFormed negative Double.exponent_shortest
    · exact spelled_decimalNumeral negative _
    · rw [value_decimalNumeral, Double.toDouble_shortest]

end Portcullis.Json
