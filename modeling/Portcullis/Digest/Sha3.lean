/-
# Digests from a sponge

A state of 25 words of 64 bits is mixed by 24 rounds.  Octets are taken in block by block, added to
the beginning of the state without carry, and octets of the digest are given out from there.  The
member of the family that is needed here takes blocks of 136 octets and gives out as many as asked.
-/
import Portcullis.Bytes.Basic

namespace Portcullis.Sha3

/-! ## 1. The state -/

/-- The words of the state, five in a row. -/
abbrev State := List UInt64

/-- The word of a column and a row, both modulo five. -/
def State.word (s : State) (x y : Nat) : UInt64 := s.getD (x % 5 + 5 * (y % 5)) 0

/-- The state whose words a function gives by column and row. -/
def State.ofWords (f : Nat → Nat → UInt64) : State :=
  (List.range 25).map fun i => f (i % 5) (i / 5)

/-! ## 2. A round -/

/-- A word rotated to the left. -/
def rotate (n x : UInt64) : UInt64 := (x <<< n) ||| (x >>> (64 - n))

/-- How far each word is rotated. -/
def rotations : List UInt64 := [
  0, 1, 62, 28, 27, 36, 44, 6, 55, 20, 3, 10, 43, 25, 39, 41, 45, 15, 21, 8, 18, 2, 61, 56, 14]

/-- The constants that are added to the first word, one a round. -/
def roundConstants : List UInt64 := [
  0x0000000000000001, 0x0000000000008082, 0x800000000000808A, 0x8000000080008000,
  0x000000000000808B, 0x0000000080000001, 0x8000000080008081, 0x8000000000008009,
  0x000000000000008A, 0x0000000000000088, 0x0000000080008009, 0x000000008000000A,
  0x000000008000808B, 0x800000000000008B, 0x8000000000008089, 0x8000000000008003,
  0x8000000000008002, 0x8000000000000080, 0x000000000000800A, 0x800000008000000A,
  0x8000000080008081, 0x8000000000008080, 0x0000000080000001, 0x8000000080008008]

/-- Adds to each word the sums of two columns. -/
def mixColumns (s : State) : State :=
  let sums := (List.range 5).map fun x => (List.range 5).foldl (fun t y => t ^^^ s.word x y) 0
  let sum (x : Nat) := sums.getD (x % 5) 0
  State.ofWords fun x y => s.word x y ^^^ sum (x + 4) ^^^ rotate 1 (sum (x + 1))

/-- Rotates each word and moves it to another place. -/
def moveWords (s : State) : State :=
  State.ofWords fun x y =>
    rotate (State.word rotations (x + 3 * y) x) (s.word (x + 3 * y) x)

/-- Adds to each word those of the next two whose bits meet a zero and a one. -/
def mixRows (s : State) : State :=
  State.ofWords fun x y => s.word x y ^^^ (~~~ s.word (x + 1) y &&& s.word (x + 2) y)

/-- One round. -/
def round (s : State) (constant : UInt64) : State :=
  match mixRows (moveWords (mixColumns s)) with
  | [] => []
  | w :: rest => (w ^^^ constant) :: rest

/-- All rounds. -/
def mix (s : State) : State := roundConstants.foldl round s

/-! ## 3. The sponge -/

/-- Octets of a block. -/
def blockBytes : Nat := 136

/-- The words of a block, the least significant octet of each first. -/
def wordsOf (block : Bytes) : State :=
  (List.range 25).map fun i =>
    UInt64.ofNat (Bytes.toNat ((block.drop (8 * i)).take 8).reverse)

/-- Takes one block into the state. -/
def absorb (s : State) (block : Bytes) : State :=
  mix (List.zipWith (· ^^^ ·) s (wordsOf block))

/-- The octets of a block that the state gives out. -/
def give (s : State) : Bytes :=
  (s.flatMap fun w => (Bytes.ofNat 8 w.toNat).reverse).take blockBytes

/-- The message in whole blocks: five one bits, zeros, and a one bit at the end follow it. -/
def padded (message : Bytes) : Bytes :=
  let zeros := blockBytes - 1 - message.length % blockBytes
  if zeros = 0 then message ++ [0x9F]
  else message ++ 0x1F :: List.replicate (zeros - 1) 0 ++ [0x80]

/-- The blocks of a message, so many. -/
def blocks : Nat → Bytes → List Bytes
  | 0, _ => []
  | n + 1, b => b.take blockBytes :: blocks n (b.drop blockBytes)

/-- The blocks that a state gives out, so many. -/
def squeeze : Nat → State → Bytes
  | 0, _ => []
  | n + 1, s => give s ++ squeeze n (mix s)

/-- So many octets of the digest of a message. -/
def shake256 (size : Nat) (message : Bytes) : Bytes :=
  let whole := padded message
  let s := (blocks (whole.length / blockBytes) whole).foldl absorb (List.replicate 25 0)
  (squeeze (size / blockBytes + 1) s).take size

end Portcullis.Sha3
