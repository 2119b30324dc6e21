/-
# Base 64

Three octets are four digits of six bits.  Two alphabets differ in the last two digits: the
standard one ends in `+` and `/`, the one for addresses in `-` and `_`.  Writing leaves the padding
out on demand; reading accepts a text with all of its padding or with none of it, and refuses
foreign signs, impossible lengths and bits that no octet holds.
-/
import Portcullis.Bytes.Basic

namespace Portcullis.Base64

/-! ## 1. Alphabets -/

/-- The two digits in which the alphabets differ. -/
structure Alphabet where
  digit62 : Nat
  digit63 : Nat

/-- The alphabet that ends in `+` and `/`. -/
def standard : Alphabet := ⟨0x2B, 0x2F⟩

/-- The alphabet that ends in `-` and `_`. -/
def urlSafe : Alphabet := ⟨0x2D, 0x5F⟩

/-- The padding sign. -/
def pad : CodePoint := CodePoint.ofNat 0x3D

namespace Alphabet

/-- The digit for a value below 64. -/
def digit (a : Alphabet) (v : Nat) : CodePoint :=
  CodePoint.ofNat (
    if v < 26 then 0x41 + v
    else if v < 52 then 0x61 + (v - 26)
    else if v < 62 then 0x30 + (v - 52)
    else if v = 62 then a.digit62
    else a.digit63)

/-- The value of a digit. -/
def value? (a : Alphabet) (c : CodePoint) : Option Nat :=
  if 0x41 ≤ c.val ∧ c.val ≤ 0x5A then some (c.val - 0x41)
  else if 0x61 ≤ c.val ∧ c.val ≤ 0x7A then some (c.val - 0x61 + 26)
  else if 0x30 ≤ c.val ∧ c.val ≤ 0x39 then some (c.val - 0x30 + 52)
  else if c.val = a.digit62 then some 62
  else if c.val = a.digit63 then some 63
  else none

end Alphabet

/-! ## 2. Writing -/

/-- The values of the digits that stand for a sequence of octets. -/
def sextets : Bytes → List Nat
  | [] => []
  | [x] => [x.toNat / 4, x.toNat % 4 * 16]
  | [x, y] => [x.toNat / 4, x.toNat % 4 * 16 + y.toNat / 16, y.toNat % 16 * 4]
  | x :: y :: z :: rest =>
    x.toNat / 4 :: (x.toNat % 4 * 16 + y.toNat / 16) :: (y.toNat % 16 * 4 + z.toNat / 64)
      :: z.toNat % 64 :: sextets rest

/-- The digits for a sequence of octets, without padding. -/
def encode (a : Alphabet) (b : Bytes) : Text := (sextets b).map a.digit

/-- The digits and the padding signs that fill the last group of four. -/
def encodePadded (a : Alphabet) (b : Bytes) : Text :=
  let digits := encode a b
  digits ++ List.replicate ((4 - digits.length % 4) % 4) pad

/-! ## 3. Reading -/

/-- The octets that a sequence of six-bit values stands for. -/
def ofSextets : List Nat → Option Bytes
  | [] => some []
  | [_] => none
  | [p, q] => if q % 16 = 0 then some [UInt8.ofNat (p * 4 + q / 16)] else none
  | [p, q, r] =>
    if r % 4 = 0 then some [UInt8.ofNat (p * 4 + q / 16), UInt8.ofNat (q % 16 * 16 + r / 4)]
    else none
  | p :: q :: r :: s :: rest => do
    let tail ← ofSextets rest
    return UInt8.ofNat (p * 4 + q / 16) :: UInt8.ofNat (q % 16 * 16 + r / 4)
      :: UInt8.ofNat (r % 4 * 64 + s) :: tail

/-- The octets of a text without padding. -/
def decodeDigits (a : Alphabet) (t : Text) : Option Bytes := do
  ofSextets (← t.mapM a.value?)

/-- The text without the padding signs at its end, and how many there were. -/
def cutPadding (t : Text) : Text × Nat :=
  let digits := (t.reverse.dropWhile (· == pad)).reverse
  (digits, t.length - digits.length)

/-- The octets of a text whose padding is complete or left out. -/
def decode (a : Alphabet) (t : Text) : Option Bytes :=
  let (digits, padding) := cutPadding t
  if padding = 0 ∨ (padding ≤ 2 ∧ t.length % 4 = 0) then decodeDigits a digits else none

/-- The octets of a text whose padding is complete. -/
def decodePadded (a : Alphabet) (t : Text) : Option Bytes :=
  if t.length % 4 = 0 then decode a t else none

/-! ## 4. Lenient reading -/

/-- The values of the digits up to a complete padding, of which so many signs are read, the latest
digit first; other signs do not count. -/
def gather (a : Alphabet) (pads : Nat) (values : List Nat) : Text → Option (List Nat)
  | [] => if values.length % 4 = 0 then some values else none
  | c :: rest =>
    let used := values.length % 4
    if c ≠ pad then
      match a.value? c with
      | some v => gather a 0 (v :: values) rest
      | none => gather a pads values rest
    else if used < 2 then gather a pads values rest
    else if 4 ≤ used + pads + 1 then some values
    else gather a (pads + 1) values rest

/-- The octets in the digits of a text, whatever stands between them and after their padding. -/
def decodeLenient (a : Alphabet) (t : Text) : Option Bytes := do
  let values := (← gather a 0 [] t).reverse
  let octets ← ofSextets (values ++ List.replicate ((4 - values.length % 4) % 4) 0)
  return octets.take (values.length * 6 / 8)

end Portcullis.Base64
