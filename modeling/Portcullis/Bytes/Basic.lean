/-
# Octets

Sequences of octets, as lists, with the big-endian reading of a sequence as a number.
-/
import Portcullis.Text.Basic

namespace Portcullis

/-- A sequence of octets. -/
abbrev Bytes := List UInt8

namespace Bytes

/-- The number whose digits in base 256 are the octets, the first one the most significant. -/
def toNat (b : Bytes) : Nat := b.foldl (fun n x => n * 256 + x.toNat) 0

/-- The lowest `width` octets of a number, the most significant one first. -/
def ofNat (width n : Nat) : Bytes :=
  (List.range width).reverse.map fun i => UInt8.ofNat (n / Nat.pow 256 i % 256)

/-- The number of octets that a number takes. -/
def countFor (n : Nat) : Nat := (n.log2 + 8) / 8

/-- Each octet as the code point of that number. -/
def toLatin1 (b : Bytes) : Text := b.map fun x => CodePoint.ofNat x.toNat

/-- The octets of a text, for texts that are known to be ASCII; other code points lose their high
bits. -/
def ofAscii (t : Text) : Bytes := t.map fun c => UInt8.ofNat c.val

/-- What a reader of one thing reads over and over until the octets end, at most so many times. -/
def readMany {α : Type} (read : Bytes → Option (α × Bytes)) : Nat → Bytes → Option (List α)
  | _, [] => some []
  | 0, _ => none
  | n + 1, b => do
    let (a, rest) ← read b
    return a :: (← readMany read n rest)

/-- The things that follow each other in a sequence of octets. -/
def readAll {α : Type} (read : Bytes → Option (α × Bytes)) (b : Bytes) : Option (List α) :=
  readMany read b.length b

/-- Lexicographic order of the octets. -/
def le : Bytes → Bytes → Bool
  | [], _ => true
  | _ :: _, [] => false
  | x :: b, y :: c => x < y || (x == y && le b c)

end Bytes

end Portcullis
