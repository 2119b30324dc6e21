/-
# SHA-256, SHA-384 and SHA-512

One algorithm in two word widths.  The constants of the narrow width are the upper halves of those
of the wide one, so that one table serves both: the fractions of the cube roots of the first
eighty primes, and for the initial state those of the square roots of the first sixteen.
-/
import Portcullis.Bytes.Basic

namespace Portcullis.Sha2

/-! ## 1. Parameters -/

/-- The first 64 bits of the fractions of the cube roots of the first eighty primes. -/
def roundConstants : List Nat := [
  0x428A2F98D728AE22, 0x7137449123EF65CD, 0xB5C0FBCFEC4D3B2F, 0xE9B5DBA58189DBBC,
  0x3956C25BF348B538, 0x59F111F1B605D019, 0x923F82A4AF194F9B, 0xAB1C5ED5DA6D8118,
  0xD807AA98A3030242, 0x12835B0145706FBE, 0x243185BE4EE4B28C, 0x550C7DC3D5FFB4E2,
  0x72BE5D74F27B896F, 0x80DEB1FE3B1696B1, 0x9BDC06A725C71235, 0xC19BF174CF692694,
  0xE49B69C19EF14AD2, 0xEFBE4786384F25E3, 0x0FC19DC68B8CD5B5, 0x240CA1CC77AC9C65,
  0x2DE92C6F592B0275, 0x4A7484AA6EA6E483, 0x5CB0A9DCBD41FBD4, 0x76F988DA831153B5,
  0x983E5152EE66DFAB, 0xA831C66D2DB43210, 0xB00327C898FB213F, 0xBF597FC7BEEF0EE4,
  0xC6E00BF33DA88FC2, 0xD5A79147930AA725, 0x06CA6351E003826F, 0x142929670A0E6E70,
  0x27B70A8546D22FFC, 0x2E1B21385C26C926, 0x4D2C6DFC5AC42AED, 0x53380D139D95B3DF,
  0x650A73548BAF63DE, 0x766A0ABB3C77B2A8, 0x81C2C92E47EDAEE6, 0x92722C851482353B,
  0xA2BFE8A14CF10364, 0xA81A664BBC423001, 0xC24B8B70D0F89791, 0xC76C51A30654BE30,
  0xD192E819D6EF5218, 0xD69906245565A910, 0xF40E35855771202A, 0x106AA07032BBD1B8,
  0x19A4C116B8D2D0C8, 0x1E376C085141AB53, 0x2748774CDF8EEB99, 0x34B0BCB5E19B48A8,
  0x391C0CB3C5C95A63, 0x4ED8AA4AE3418ACB, 0x5B9CCA4F7763E373, 0x682E6FF3D6B2B8A3,
  0x748F82EE5DEFB2FC, 0x78A5636F43172F60, 0x84C87814A1F0AB72, 0x8CC702081A6439EC,
  0x90BEFFFA23631E28, 0xA4506CEBDE82BDE9, 0xBEF9A3F7B2C67915, 0xC67178F2E372532B,
  0xCA273ECEEA26619C, 0xD186B8C721C0C207, 0xEADA7DD6CDE0EB1E, 0xF57D4F7FEE6ED178,
  0x06F067AA72176FBA, 0x0A637DC5A2C898A6, 0x113F9804BEF90DAE, 0x1B710B35131C471B,
  0x28DB77F523047D84, 0x32CAAB7B40C72493, 0x3C9EBE0A15C9BEBC, 0x431D67C49C100D4C,
  0x4CC5D4BECB3E42B6, 0x597F299CFC657E2A, 0x5FCB6FAB3AD6FAEC, 0x6C44198C4A475817]

/-- The first 64 bits of the fractions of the square roots of the first eight primes. -/
def initialFirst : List Nat := [
  0x6A09E667F3BCC908, 0xBB67AE8584CAA73B, 0x3C6EF372FE94F82B, 0xA54FF53A5F1D36F1,
  0x510E527FADE682D1, 0x9B05688C2B3E6C1F, 0x1F83D9ABFB41BD6B, 0x5BE0CD19137E2179]

/-- The first 64 bits of the fractions of the square roots of the next eight primes. -/
def initialSecond : List Nat := [
  0xCBBB9D5DC1059ED8, 0x629A292A367CD507, 0x9159015A3070DD17, 0x152FECD8F70E5939,
  0x67332667FFC00B31, 0x8EB44A8768581511, 0xDB0C2E0D64F98FA7, 0x47B5481DBEFA4FA4]

/-- Two rotations and a third amount, which is a rotation or a shift. -/
structure Mix where
  first : Nat
  second : Nat
  third : Nat

/-- What tells the members of the family apart. -/
structure Params where
  /-- Octets of a word. -/
  wordBytes : Nat
  rounds : List Nat
  initial : List Nat
  /-- Octets of the digest. -/
  size : Nat
  scheduleLow : Mix
  scheduleHigh : Mix
  roundHigh : Mix
  roundLow : Mix

/-- Words of 32 bits, 64 rounds, a digest of 32 octets. -/
def sha256 : Params where
  wordBytes := 4
  rounds := (roundConstants.take 64).map (· / Nat.pow 2 32)
  initial := initialFirst.map (· / Nat.pow 2 32)
  size := 32
  scheduleLow := ⟨7, 18, 3⟩
  scheduleHigh := ⟨17, 19, 10⟩
  roundHigh := ⟨6, 11, 25⟩
  roundLow := ⟨2, 13, 22⟩

/-- Words of 64 bits, 80 rounds, a digest of 64 octets. -/
def sha512 : Params where
  wordBytes := 8
  rounds := roundConstants
  initial := initialFirst
  size := 64
  scheduleLow := ⟨1, 8, 7⟩
  scheduleHigh := ⟨19, 61, 6⟩
  roundHigh := ⟨14, 18, 41⟩
  roundLow := ⟨28, 34, 39⟩

/-- The wide member with another initial state and a digest of 48 octets. -/
def sha384 : Params := { sha512 with initial := initialSecond, size := 48 }

namespace Params

/-- The number of values of a word. -/
def modulus (p : Params) : Nat := Nat.pow 2 (8 * p.wordBytes)

/-- Octets of a block: sixteen words. -/
def blockBytes (p : Params) : Nat := 16 * p.wordBytes

/-- A word rotated to the right. -/
def rotate (p : Params) (n x : Nat) : Nat :=
  (x >>> n) ||| ((x <<< (8 * p.wordBytes - n)) % p.modulus)

/-- Two rotations and a shift, added without carry. -/
def mixShift (p : Params) (m : Mix) (x : Nat) : Nat :=
  p.rotate m.first x ^^^ p.rotate m.second x ^^^ (x >>> m.third)

/-- Three rotations, added without carry. -/
def mixRotate (p : Params) (m : Mix) (x : Nat) : Nat :=
  p.rotate m.first x ^^^ p.rotate m.second x ^^^ p.rotate m.third x

/-! ## 2. One block -/

/-- The eight words of the state. -/
structure State where
  a : Nat
  b : Nat
  c : Nat
  d : Nat
  e : Nat
  f : Nat
  g : Nat
  h : Nat

/-- The state of eight words. -/
def State.ofList (w : List Nat) : State :=
  let at_ (i : Nat) := w.getD i 0
  ⟨at_ 0, at_ 1, at_ 2, at_ 3, at_ 4, at_ 5, at_ 6, at_ 7⟩

/-- The words of a state, in order. -/
def State.toList (s : State) : List Nat := [s.a, s.b, s.c, s.d, s.e, s.f, s.g, s.h]

/-- One round, with the sum of its constant and its word. -/
def round (p : Params) (s : State) (input : Nat) : State :=
  let choice := (s.e &&& s.f) ^^^ ((p.modulus - 1 - s.e) &&& s.g)
  let majority := (s.a &&& s.b) ^^^ (s.a &&& s.c) ^^^ (s.b &&& s.c)
  let t₁ := s.h + p.mixRotate p.roundHigh s.e + choice + input
  let t₂ := p.mixRotate p.roundLow s.a + majority
  ⟨(t₁ + t₂) % p.modulus, s.a, s.b, s.c, (s.d + t₁) % p.modulus, s.e, s.f, s.g⟩

/-- Runs the rounds; `words` holds the sixteen words that come next. -/
def runRounds (p : Params) : List Nat → List Nat → State → State
  | [], _, s => s
  | k :: constants, words, s =>
    let word := words.getD 0 0
    let next := (p.mixShift p.scheduleHigh (words.getD 14 0) + words.getD 9 0
      + p.mixShift p.scheduleLow (words.getD 1 0) + word) % p.modulus
    runRounds p constants (words.drop 1 ++ [next]) (p.round s (k + word))

/-- The octets in pieces of a fixed length. -/
def pieces (size : Nat) : Nat → Bytes → List Bytes
  | 0, _ => []
  | n + 1, b => b.take size :: pieces size n (b.drop size)

/-- Takes one block into the state. -/
def compress (p : Params) (s : State) (block : Bytes) : State :=
  let words := (pieces p.wordBytes 16 block).map Bytes.toNat
  let r := p.runRounds p.rounds words s
  State.ofList (List.zipWith (fun x y => (x + y) % p.modulus) s.toList r.toList)

/-! ## 3. Messages -/

/-- The message, a one bit, zeros, and the number of bits in the last two words. -/
def padded (p : Params) (message : Bytes) : Bytes :=
  let used := (message.length + 1 + 2 * p.wordBytes) % p.blockBytes
  message ++ 0x80 :: List.replicate ((p.blockBytes - used) % p.blockBytes) 0
    ++ Bytes.ofNat (2 * p.wordBytes) (8 * message.length)

/-- The digest of a message. -/
def digest (p : Params) (message : Bytes) : Bytes :=
  let whole := p.padded message
  let blocks := pieces p.blockBytes (whole.length / p.blockBytes) whole
  let s := blocks.foldl p.compress (State.ofList p.initial)
  (s.toList.flatMap (Bytes.ofNat p.wordBytes)).take p.size

end Params

end Portcullis.Sha2
