/-
# Decimal numbers and their text

A decimal is a natural number times a power of ten.  Its text is positional when the leading digit
stands for a power of ten from -4 to 15, and has an exponent of two digits or more otherwise; a
positional text always has a point.

Reading a decimal as a binary64 number rounds its exact value.  The value decides, so `15` times
ten and `150` are read alike; the few digits that an exponent of many digits would take to write out
are never written out.
-/
import Portcullis.Number.Double
import Portcullis.Text.Digits

namespace Portcullis

/-- A natural number times a power of ten. -/
structure Decimal where
  digits : Nat
  exponent : Int
deriving DecidableEq

namespace Decimal

/-! ## 1. Value -/

/-- The number of decimal digits of a natural number; zero has one. -/
def digitCount (n : Nat) : Nat := (Nat.toDigits 10 n).length

/-- The exact value. -/
def toRat (d : Decimal) : Rat :=
  if d.exponent ≥ 0 then ((d.digits * Nat.pow 10 d.exponent.toNat : Nat) : Rat)
  else mkRat d.digits (Nat.pow 10 (-d.exponent).toNat)

/-- The binary64 number nearest to the value, with a sign.  A value of 10^310 or more is beyond
every finite number and one below 10^(-330) is nearer to zero than to any other. -/
def toDouble (negative : Bool) (d : Decimal) : Double :=
  if d.digits = 0 then Double.zero negative
  else
    let magnitude : Int := digitCount d.digits + d.exponent
    if magnitude > 310 then .infinite negative
    else if magnitude < -330 then Double.zero negative
    else Double.ofRatio negative d.toRat.num.natAbs d.toRat.den

/-! ## 2. Text -/

/-- Zeros in a row. -/
def zeros (n : Nat) : Text := List.replicate n (CodePoint.ofNat 0x30)

/-- The digits before and after a point that stands behind the first `place` of them. -/
def positional (digits : Text) (place : Int) : Text :=
  if place ≤ 0 then ("0." : Text) ++ zeros (-place).toNat ++ digits
  else if digits.length ≤ place then digits ++ zeros (place.toNat - digits.length) ++ ".0"
  else digits.take place.toNat ++ "." ++ digits.drop place.toNat

/-- The first digit, the others behind a point, and the power of ten. -/
def exponential (digits : Text) (power : Int) : Text :=
  let head := if digits.length ≤ 1 then digits else digits.take 1 ++ "." ++ digits.drop 1
  let size := Text.decimal power.natAbs
  head ++ (if power < 0 then "e-" else "e+") ++ zeros (2 - size.length) ++ size

/-- The text of a decimal; the digits are to have no zeros at their end. -/
def text (d : Decimal) : Text :=
  let digits := Text.decimal d.digits
  let place := digits.length + d.exponent
  if -4 < place ∧ place ≤ 16 then positional digits place else exponential digits (place - 1)

/-- The decimal of the same value without zeros at the end of its digits. -/
def trimmed (d : Decimal) : Decimal :=
  go (digitCount d.digits) d
where
  /-- Divides by ten while that is exact, at most so many times. -/
  go : Nat → Decimal → Decimal
    | 0, d => d
    | n + 1, d =>
      if d.digits ≠ 0 ∧ d.digits % 10 = 0 then go n ⟨d.digits / 10, d.exponent + 1⟩ else d

end Decimal

end Portcullis
