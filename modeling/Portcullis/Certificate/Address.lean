/-
# Addresses of hosts

Four octets are written as decimal numbers between points.  Sixteen octets are eight hexadecimal
groups between colons, where two colons stand for the longest run of zero groups, the first of those
equally long, if it has more than one group.

Twice as many octets are a network: an address and a mask, whose ones come first.  The address has
zeros where the mask has, and the number of ones is written after a slash.
-/
import Portcullis.Bytes.Basic

namespace Portcullis.Address

/-- The text of an address of four octets. -/
def textOfFour (b : Bytes) : Text := Text.join "." (b.map fun x => Text.decimal x.toNat)

/-- A group in hexadecimal digits without leading zeros. -/
def group (n : Nat) : Text := (Nat.toDigits 16 n).map CodePoint.ofChar

/-- The groups of two octets. -/
def groups : Bytes → List Nat
  | x :: y :: rest => (x.toNat * 256 + y.toNat) :: groups rest
  | _ => []

/-- The longest run of zeros, the first of those equally long: where it begins and its length. -/
def longestRun (gs : List Nat) : Nat × Nat :=
  let starts := (List.range gs.length).map fun i =>
    (i, ((gs.drop i).takeWhile (· == 0)).length)
  starts.foldl (fun best run => if best.2 < run.2 then run else best) (0, 0)

/-- The text of an address of sixteen octets. -/
def textOfSixteen (b : Bytes) : Text :=
  let gs := groups b
  let (start, size) := longestRun gs
  let written (l : List Nat) := Text.join ":" (l.map group)
  if size ≤ 1 then written gs
  else written (gs.take start) ++ "::" ++ written (gs.drop (start + size))

/-- The text of an address of four or sixteen octets. -/
def text? (b : Bytes) : Option Text :=
  if b.length = 4 then some (textOfFour b)
  else if b.length = 16 then some (textOfSixteen b)
  else none

/-! ## Networks -/

/-- The bits of a sequence of octets, the highest of each first. -/
def bitsOf (b : Bytes) : List Bool :=
  b.flatMap fun x => (List.range 8).map fun i => x.toNat.testBit (7 - i)

/-- The text of a network. -/
def networkText? (b : Bytes) : Option Text := do
  let size := b.length / 2
  let mask := bitsOf (b.drop size)
  let ones := (mask.takeWhile id).length
  guard (2 * size = b.length && (mask.drop ones).all not)
  guard (((bitsOf (b.take size)).drop ones).all not)
  return (← text? (b.take size)) ++ "/" ++ Text.decimal ones

end Portcullis.Address
