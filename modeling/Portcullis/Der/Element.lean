/-
# Tagged values

The distinguished encoding of nested values: a tag, a length, and the content, each in as few octets
as it takes.  A tag is one octet; where its low five bits are all set, its number follows in base
128.  Lengths up to 127 take one octet; longer ones say first how many octets they take.
-/
import Portcullis.Bytes.Basic

namespace Portcullis.Der

/-- A tag, the content under it, and all the octets that both take.  A tag is its first octet, to
which 256 times a number of its own is added if it has one. -/
structure Element where
  tag : Nat
  content : Bytes
  whole : Bytes

/-! ## 1. Tags and lengths -/

/-- The number in base 128 that a sequence of octets begins with, and the rest.  All octets but the
last have their high bit set. -/
def readSeptets (b : Bytes) : Option (Nat × Bytes) := do
  let high := b.takeWhile fun x => 0x80 ≤ x.toNat
  match b.drop high.length with
  | [] => none
  | last :: rest =>
    let n := (high ++ [last]).foldl (fun n x => n * 128 + x.toNat % 128) 0
    guard (high.head? ≠ some 0x80 ∧ n < Nat.pow 2 128)
    return (n, rest)

/-- The tag that a sequence of octets begins with, and the rest. -/
def readTag : Bytes → Option (Nat × Bytes)
  | [] => none
  | x :: rest =>
    if x.toNat % 32 ≠ 31 then some (x.toNat, rest)
    else do
      let (n, rest) ← readSeptets rest
      guard (31 ≤ n ∧ n < Nat.pow 2 32)
      return (x.toNat + 256 * n, rest)

/-- The length that a sequence of octets begins with, and the rest. -/
def readLength : Bytes → Option (Nat × Bytes)
  | [] => none
  | x :: rest =>
    if x.toNat < 0x80 then some (x.toNat, rest)
    else
      let count := x.toNat - 0x80
      let digits := rest.take count
      let n := Bytes.toNat digits
      if 1 ≤ count ∧ count ≤ 4 ∧ digits.length = count ∧ 0x80 ≤ n
          ∧ Nat.pow 256 (count - 1) ≤ n then
        some (n, rest.drop count)
      else none

/-- The octets of a number in base 128, of which the last one is given. -/
def writeSeptets (n : Nat) (tail : Bytes) : Bytes :=
  if n = 0 then tail
  else writeSeptets (n / 128) (UInt8.ofNat (0x80 + n % 128) :: tail)

/-- The octets of an object identifier.  The first two numbers share one. -/
def idOf : List Nat → Bytes
  | first :: second :: rest => ((40 * first + second) :: rest).flatMap fun n =>
    writeSeptets (n / 128) [UInt8.ofNat (n % 128)]
  | _ => []

/-! ## 2. Elements -/

/-- The element that a sequence of octets begins with, and the rest. -/
def readElement (b : Bytes) : Option (Element × Bytes) := do
  let (tag, rest) ← readTag b
  let (n, rest) ← readLength rest
  guard (n ≤ rest.length)
  return (⟨tag, rest.take n, b.take (b.length - rest.length + n)⟩, rest.drop n)

/-- The elements that follow each other in a sequence of octets. -/
def elements (b : Bytes) : Option (List Element) := Bytes.readAll readElement b

/-- The element that a sequence of octets is. -/
def single (b : Bytes) : Option Element := do
  let (e, rest) ← readElement b
  guard rest.isEmpty
  return e

end Portcullis.Der
