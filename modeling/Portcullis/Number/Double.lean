/-
# Binary64 numbers

A finite number is a sign, a significand below 2^53 and a binary exponent.  The significand has all
of its 53 bits unless the exponent is the least one, so that each number has one form and equality
is equality of forms: the two zeros differ.  There are two infinities and one value that is no
number.

Reading rounds an exact rational to the nearest number, a half to the even significand
(`ofRatio`); everything else here is exact.
-/

namespace Portcullis

/-! ## 1. The numbers -/

/-- The significands and exponents of finite numbers. -/
def Double.IsCanonical (significand : Nat) (exponent : Int) : Prop :=
  significand < Nat.pow 2 53 ∧ -1074 ≤ exponent ∧ exponent ≤ 971 ∧
    (Nat.pow 2 52 ≤ significand ∨ exponent = -1074)

instance (m : Nat) (e : Int) : Decidable (Double.IsCanonical m e) := by
  unfold Double.IsCanonical; infer_instance

/-- A binary64 number. -/
inductive Double where
  | notANumber
  | infinite (negative : Bool)
  | finite (negative : Bool) (significand : Nat) (exponent : Int)
      (canonical : Double.IsCanonical significand exponent)
deriving DecidableEq

namespace Double

/-- The zero of a sign. -/
def zero (negative : Bool) : Double := .finite negative 0 (-1074) (by decide)

/-- The finite number of a significand and an exponent, or the infinity of that sign when they
belong to no finite number. -/
def ofParts (negative : Bool) (significand : Nat) (exponent : Int) : Double :=
  if h : IsCanonical significand exponent then .finite negative significand exponent h
  else .infinite negative

/-! ## 2. Exact values -/

/-- The product of a natural number and a power of two, as a rational. -/
def scaled (m : Nat) (e : Int) : Rat :=
  if e ≥ 0 then ((m * Nat.pow 2 e.toNat : Nat) : Rat) else mkRat m (Nat.pow 2 (-e).toNat)

/-- The exact value of a finite number. -/
def toRat? : Double → Option Rat
  | .finite negative m e _ => some (if negative then -scaled m e else scaled m e)
  | _ => none

/-- The integer part of a finite number, which lies between it and zero. -/
def truncate? : Double → Option Int
  | .finite negative m e _ => some (if negative then -(scaled m e).floor else (scaled m e).floor)
  | _ => none

/-- Whether the number is one of the two zeros. -/
def isZero : Double → Bool
  | .finite _ m _ _ => m == 0
  | _ => false

/-! ## 3. Rounding -/

/-- The quotient of two natural numbers rounded to the nearest integer, a half to the even one. -/
def roundQuotient (n d : Nat) : Nat :=
  let q := n / d
  let r := n % d
  if 2 * r < d then q else if d < 2 * r then q + 1 else q + q % 2

/-- The exponent of the greatest power of two that is not above a positive quotient. -/
def floorLog2 (n d : Nat) : Int :=
  let guess : Int := n.log2 - d.log2
  let reached :=
    if guess ≥ 0 then d * Nat.pow 2 guess.toNat ≤ n else d ≤ n * Nat.pow 2 (-guess).toNat
  if reached then guess else guess - 1

/-- The number nearest to a quotient of natural numbers, with a sign. -/
def ofRatio (negative : Bool) (n d : Nat) : Double :=
  if n = 0 then zero negative
  else
    let e := max (-1074) (floorLog2 n d - 52)
    let q :=
      if e ≥ 0 then roundQuotient n (d * Nat.pow 2 e.toNat)
      else roundQuotient (n * Nat.pow 2 (-e).toNat) d
    if q = Nat.pow 2 53 then ofParts negative (Nat.pow 2 52) (e + 1) else ofParts negative q e

/-- The number nearest to a rational. -/
def ofRat (x : Rat) : Double := ofRatio (x.num < 0) x.num.natAbs x.den

/-- The number nearest to an integer. -/
def ofInt (i : Int) : Double := ofRatio (i < 0) i.natAbs 1

end Double

end Portcullis
