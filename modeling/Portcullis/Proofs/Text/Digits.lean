/-
# Decimal digits

The digits of a natural number as values, beside their text.  The value of a row of digits is taken
apart where the row is (`ofDigits_append`), zeros in front of it do not count, and a positive number
is written without a zero in front.
-/
import Mathlib.Data.List.Basic
import Mathlib.Tactic.Ring
import Portcullis.Number.Decimal

namespace Portcullis.Text

/-! ## 1. Rows of digits -/

/-- The text of digits that are given by their values. -/
def ofDigitValues (ds : List Nat) : Text := ds.map fun d => CodePoint.ofNat (0x30 + d)

@[simp] theorem length_ofDigitValues (ds : List Nat) : (ofDigitValues ds).length = ds.length :=
  List.length_map _

@[simp] theorem ofDigitValues_append (ds es : List Nat) :
    ofDigitValues (ds ++ es) = ofDigitValues ds ++ ofDigitValues es := List.map_append

theorem zeros_eq (n : Nat) : Decimal.zeros n = ofDigitValues (List.replicate n 0) := by
  rw [ofDigitValues, List.map_replicate]
  rfl

theorem val_digit {d : Nat} (hd : d < 10) : (CodePoint.ofNat (0x30 + d)).val = 0x30 + d :=
  CodePoint.val_ofNat (by omega)

theorem isAsciiDigit_digit {d : Nat} (hd : d < 10) :
    (CodePoint.ofNat (0x30 + d)).isAsciiDigit = true := by
  rw [CodePoint.isAsciiDigit, val_digit hd, Bool.and_eq_true, decide_eq_true_eq, decide_eq_true_eq]
  omega

/-- The values of the digits are read off their text. -/
theorem values_ofDigitValues {ds : List Nat} (h : ∀ d ∈ ds, d < 10) :
    (ofDigitValues ds).map (fun c => c.val - 0x30) = ds := by
  rw [ofDigitValues, List.map_map]
  conv_rhs => rw [← List.map_id ds]
  refine List.map_congr_left ?_
  intro d hd
  rw [Function.comp_apply, val_digit (h d hd), id]
  omega

theorem isAsciiDigit_of_mem {ds : List Nat} (h : ∀ d ∈ ds, d < 10) :
    ∀ c ∈ ofDigitValues ds, c.isAsciiDigit = true := by
  intro c hc
  obtain ⟨d, hd, rfl⟩ := List.mem_map.mp hc
  exact isAsciiDigit_digit (h d hd)

/-! ## 2. Their value -/

theorem foldl_ofDigits (ds : List Nat) (n : Nat) :
    ds.foldl (fun n d => 10 * n + d) n = n * 10 ^ ds.length + ofDigits ds := by
  induction ds generalizing n with
  | nil => simp [ofDigits]
  | cons d ds ih =>
    have hd : ofDigits (d :: ds) = (10 * 0 + d) * 10 ^ ds.length + ofDigits ds := ih _
    rw [List.foldl_cons, ih, hd, List.length_cons, pow_succ]
    ring

theorem ofDigits_append (ds es : List Nat) :
    ofDigits (ds ++ es) = ofDigits ds * 10 ^ es.length + ofDigits es := by
  rw [ofDigits, List.foldl_append, foldl_ofDigits es]
  rfl

theorem ofDigits_replicate_zero (n : Nat) : ofDigits (List.replicate n 0) = 0 := by
  induction n with
  | zero => rfl
  | succ n ih => rw [List.replicate_succ', ofDigits_append, ih]; rfl

/-! ## 3. The digits of a number -/

/-- The values of the decimal digits of a natural number, without zeros in front. -/
def digitsOf (n : Nat) : List Nat := (Nat.toDigits 10 n).map fun c => c.toNat - 48

theorem digitsOf_of_lt {n : Nat} (h : n < 10) : digitsOf n = [n] := by
  rw [digitsOf, Nat.toDigits_of_lt_base h, List.map_singleton,
    Nat.toNat_digitChar_sub_48_of_lt_ten h]

theorem digitsOf_of_le {n : Nat} (h : 10 ≤ n) : digitsOf n = digitsOf (n / 10) ++ [n % 10] := by
  rw [digitsOf, Nat.toDigits_of_base_le (by norm_num) h, List.map_append, List.map_singleton,
    Nat.toNat_digitChar_sub_48_of_lt_ten (Nat.mod_lt n (by norm_num))]
  rfl

theorem digitsOf_lt (n : Nat) : ∀ d ∈ digitsOf n, d < 10 := by
  induction n using Nat.strongRecOn with
  | ind n ih =>
    intro d hd
    rcases Nat.lt_or_ge n 10 with h | h
    · rw [digitsOf_of_lt h, List.mem_singleton] at hd
      omega
    · rw [digitsOf_of_le h, List.mem_append, List.mem_singleton] at hd
      rcases hd with hd | hd
      · exact ih (n / 10) (by omega) d hd
      · omega

/-- The text of a number is that of its digits. -/
theorem decimal_eq (n : Nat) : decimal n = ofDigitValues (digitsOf n) := by
  rw [decimal, digitsOf, ofDigitValues, List.map_map]
  refine List.map_congr_left ?_
  intro c hc
  have hdigit : c.isDigit = true := Nat.isDigit_of_mem_toDigits (by norm_num) (by norm_num) hc
  have hle : 48 ≤ c.toNat := by
    rw [Char.isDigit, Bool.and_eq_true, decide_eq_true_eq] at hdigit
    exact hdigit.1
  rw [Function.comp_apply, CodePoint.ofChar]
  congr 1
  omega

theorem digitsOf_ne_nil (n : Nat) : digitsOf n ≠ [] := by
  rw [Ne, digitsOf, List.map_eq_nil_iff]
  exact Nat.toDigits_ne_nil

/-- **The digits of a number have its value.** -/
theorem ofDigits_digitsOf (n : Nat) : ofDigits (digitsOf n) = n := by
  have h : Nat.ofDigitChars 10 (Nat.toDigits 10 n) 0 = n := Nat.ofDigitChars_ten_toDigits
  rw [Nat.ofDigitChars_eq_foldl] at h
  rw [ofDigits, digitsOf, List.foldl_map]
  exact h

/-- A positive number is written without a zero in front. -/
theorem head?_digitsOf {n : Nat} (hn : n ≠ 0) : (digitsOf n).head? ≠ some 0 := by
  induction n using Nat.strongRecOn with
  | ind n ih =>
    rcases Nat.lt_or_ge n 10 with h | h
    · rw [digitsOf_of_lt h, List.head?_cons, Ne, Option.some.injEq]
      exact hn
    · rw [digitsOf_of_le h, List.head?_append_of_ne_nil _ (digitsOf_ne_nil _)]
      exact ih (n / 10) (by omega) (by omega)

end Portcullis.Text
