/-
# Texts in octets of unknown encoding

A document may come in UTF-8, UTF-16 or UTF-32.  A byte order mark names the encoding; without one
the zeros among the first four octets do, since such a document begins with ASCII.  Surrogates are
allowed in all three.
-/
import Portcullis.Text.Utf8

namespace Portcullis.Encoding

/-! ## 1. Wide units -/

/-- The order of the octets in a unit. -/
inductive ByteOrder where
  | big
  | little
deriving DecidableEq

/-- The number of a unit. -/
def ByteOrder.unit (order : ByteOrder) (b : Bytes) : Nat :=
  match order with
  | .big => Bytes.toNat b
  | .little => Bytes.toNat b.reverse

/-- The units of two octets, if none is cut short. -/
def units16 (order : ByteOrder) : Bytes → Option (List Nat)
  | [] => some []
  | [_] => none
  | x :: y :: rest => (order.unit [x, y] :: ·) <$> units16 order rest

/-- The units of four octets, if none is cut short. -/
def units32 (order : ByteOrder) : Bytes → Option (List Nat)
  | [] => some []
  | x :: y :: z :: w :: rest => (order.unit [x, y, z, w] :: ·) <$> units32 order rest
  | _ => none

/-- Joins each high surrogate with the low one after it. -/
def joinPairs : List Nat → Text
  | [] => []
  | [u] => [CodePoint.ofNat u]
  | u :: v :: rest =>
    if 0xD800 ≤ u ∧ u ≤ 0xDBFF ∧ 0xDC00 ≤ v ∧ v ≤ 0xDFFF then
      CodePoint.ofNat (0x10000 + (u - 0xD800) * 0x400 + (v - 0xDC00)) :: joinPairs rest
    else CodePoint.ofNat u :: joinPairs (v :: rest)

/-- The text of a sequence of octets in UTF-16. -/
def decode16 (order : ByteOrder) (b : Bytes) : Option Text := joinPairs <$> units16 order b

/-- The text of a sequence of octets in UTF-32. -/
def decode32 (order : ByteOrder) (b : Bytes) : Option Text := do
  (← units32 order b).mapM fun u => if u < 0x110000 then some (CodePoint.ofNat u) else none

/-! ## 2. Finding the encoding -/

/-- Reads octets that begin with no byte order mark. -/
def decodeUnmarked (b : Bytes) : Option Text :=
  match b with
  | x :: y :: z :: w :: _ =>
    if x = 0 then (if y = 0 then decode32 .big b else decode16 .big b)
    else if y = 0 then (if z = 0 ∧ w = 0 then decode32 .little b else decode16 .little b)
    else Utf8.decodeWithSurrogates? b
  | [x, y] =>
    if x = 0 then decode16 .big b
    else if y = 0 then decode16 .little b
    else Utf8.decodeWithSurrogates? b
  | _ => Utf8.decodeWithSurrogates? b

/-- The text of a document in any of the encodings. -/
def decode (b : Bytes) : Option Text :=
  match b with
  | 0x00 :: 0x00 :: 0xFE :: 0xFF :: rest => decode32 .big rest
  | 0xFF :: 0xFE :: 0x00 :: 0x00 :: rest => decode32 .little rest
  | 0xFE :: 0xFF :: rest => decode16 .big rest
  | 0xFF :: 0xFE :: rest => decode16 .little rest
  | 0xEF :: 0xBB :: 0xBF :: rest => Utf8.decodeWithSurrogates? rest
  | _ => decodeUnmarked b

end Portcullis.Encoding
