/-
# SHA-1

Eighty rounds on five words of 32 bits.  It serves the signatures of webhooks, which are fixed to
it.
-/
import Portcullis.Digest.Sha2

namespace Portcullis.Sha1

/-- The five words of the state. -/
structure State where
  a : Nat
  b : Nat
  c : Nat
  d : Nat
  e : Nat

/-- The state before the first block. -/
def State.initial : State := ⟨0x67452301, 0xEFCDAB89, 0x98BADCFE, 0x10325476, 0xC3D2E1F0⟩

/-- A word of 32 bits rotated to the left. -/
def rotate (n x : Nat) : Nat := ((x <<< n) % Nat.pow 2 32) ||| (x >>> (32 - n))

/-- One round with its word; each twenty rounds have a function and a constant of their own. -/
def round (s : State) (index word : Nat) : State :=
  let (f, k) :=
    if index < 20 then ((s.b &&& s.c) ||| ((Nat.pow 2 32 - 1 - s.b) &&& s.d), 0x5A827999)
    else if index < 40 then (s.b ^^^ s.c ^^^ s.d, 0x6ED9EBA1)
    else if index < 60 then ((s.b &&& s.c) ||| (s.b &&& s.d) ||| (s.c &&& s.d), 0x8F1BBCDC)
    else (s.b ^^^ s.c ^^^ s.d, 0xCA62C1D6)
  ⟨(rotate 5 s.a + f + s.e + k + word) % Nat.pow 2 32, s.a, rotate 30 s.b, s.c, s.d⟩

/-- Runs the rounds from an index on; `words` holds the sixteen words that come next. -/
def runRounds : Nat → Nat → List Nat → State → State
  | 0, _, _, s => s
  | n + 1, index, words, s =>
    let word := words.getD 0 0
    let next := rotate 1 (words.getD 13 0 ^^^ words.getD 8 0 ^^^ words.getD 2 0 ^^^ word)
    runRounds n (index + 1) (words.drop 1 ++ [next]) (round s index word)

/-- Takes one block of 64 octets into the state. -/
def compress (s : State) (block : Bytes) : State :=
  let r := runRounds 80 0 ((Sha2.Params.pieces 4 16 block).map Bytes.toNat) s
  let sum (x y : Nat) := (x + y) % Nat.pow 2 32
  ⟨sum s.a r.a, sum s.b r.b, sum s.c r.c, sum s.d r.d, sum s.e r.e⟩

/-- The digest of a message, 20 octets. -/
def digest (message : Bytes) : Bytes :=
  let whole := Sha2.sha256.padded message
  let s := (Sha2.Params.pieces 64 (whole.length / 64) whole).foldl compress State.initial
  [s.a, s.b, s.c, s.d, s.e].flatMap (Bytes.ofNat 4)

end Portcullis.Sha1
