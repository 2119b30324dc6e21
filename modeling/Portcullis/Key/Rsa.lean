/-
# RSA signatures

Signatures with the two paddings in use: the deterministic one, in which the digest stands behind a
fixed run of octets, and the probabilistic one with a salt as long as the digest, which is only
checked here.
-/
import Portcullis.Digest.Hmac
import Portcullis.Number.Modular

namespace Portcullis.Rsa

/-! ## 1. Keys -/

/-- The public half of a key. -/
structure PublicKey where
  modulus : Nat
  exponent : Nat

/-- A whole key: what the public half holds, the secret exponent, and the two primes with the
remainders that speed signing up. -/
structure PrivateKey extends PublicKey where
  secret : Nat
  first : Nat
  second : Nat
  firstSecret : Nat
  secondSecret : Nat
  inverse : Nat

/-- Whether numbers may be a public half: the exponent is odd and neither one nor too large. -/
def PublicKey.isValid (k : PublicKey) : Bool :=
  3 ≤ k.modulus && 3 ≤ k.exponent && k.exponent < k.modulus && k.exponent % 2 == 1

/-- Whether the numbers of a whole key belong together. -/
def PrivateKey.isValid (k : PrivateKey) : Bool :=
  let p := k.first
  let q := k.second
  p % 2 == 1 && q % 2 == 1 && p * q == k.modulus && k.exponent % 2 == 1 && k.exponent != 1
    && k.exponent * k.secret % Nat.lcm (p - 1) (q - 1) == 1
    && k.firstSecret == k.secret % (p - 1) && k.secondSecret == k.secret % (q - 1)
    && k.inverse < p && k.inverse * q % p == 1
    && Modular.isPrime p && Modular.isPrime q

/-- Whether a key is of a size that signatures are checked for. -/
def PublicKey.isUsable (k : PublicKey) : Bool :=
  k.modulus < Nat.pow 2 16384 && (k.modulus < Nat.pow 2 3072 || k.exponent < Nat.pow 2 64)

/-! ## 2. The deterministic padding -/

/-- What precedes the digest: the name of the hash function, as a tagged value. -/
def digestInfo : Hash → Bytes
  | .sha1 =>
    [0x30, 0x21, 0x30, 0x09, 0x06, 0x05, 0x2B, 0x0E, 0x03, 0x02, 0x1A, 0x05, 0x00, 0x04, 0x14]
  | .sha256 => nist 0x31 0x01 0x20
  | .sha384 => nist 0x41 0x02 0x30
  | .sha512 => nist 0x51 0x03 0x40
where
  /-- The names of one family differ in three octets. -/
  nist (total member size : UInt8) : Bytes :=
    [0x30, total, 0x30, 0x0D, 0x06, 0x09, 0x60, 0x86, 0x48, 0x01, 0x65, 0x03, 0x04, 0x02, member,
      0x05, 0x00, 0x04, size]

/-- The padded digest of a message, if it fits into so many octets. -/
def padMessage (h : Hash) (size : Nat) (message : Bytes) : Option Bytes :=
  let tail := digestInfo h ++ h.digest message
  if tail.length + 11 ≤ size then
    some (0x00 :: 0x01 :: List.replicate (size - tail.length - 3) 0xFF ++ 0x00 :: tail)
  else none

/-- Whether a signature with the deterministic padding is a key's for a message. -/
def verify (h : Hash) (key : PublicKey) (message signature : Bytes) : Bool :=
  let size := Bytes.countFor key.modulus
  let s := Bytes.toNat signature
  key.isUsable && signature.length == size && s < key.modulus &&
    padMessage h size message == some (Bytes.ofNat size (Modular.power s key.exponent key.modulus))

/-- The signature of a message with the deterministic padding. -/
def sign (h : Hash) (key : PrivateKey) (message : Bytes) : Option Bytes := do
  let size := Bytes.countFor key.modulus
  let padded ← padMessage h size message
  return Bytes.ofNat size (Modular.power (Bytes.toNat padded) key.secret key.modulus)

/-! ## 3. The probabilistic padding -/

/-- The first octets of the digests of a seed and a counter. -/
def maskOf (h : Hash) (seed : Bytes) (size : Nat) : Bytes :=
  ((List.range (size / h.size + 1)).flatMap fun i => h.digest (seed ++ Bytes.ofNat 4 i)).take size

/-- Whether a signature with the probabilistic padding is a key's for a message. -/
def verifyPss (h : Hash) (key : PublicKey) (message signature : Bytes) : Bool :=
  let size := Bytes.countFor key.modulus
  let s := Bytes.toNat signature
  let bits := key.modulus.log2
  let width := (bits + 7) / 8
  let encoded := Modular.power s key.exponent key.modulus
  let padded := Bytes.ofNat width encoded
  let room := width - h.size - 1
  let masked := padded.take room
  let check := (padded.drop room).take h.size
  let mask := maskOf h check room
  let spare := 8 * width - bits
  let opened := List.zipWith (· ^^^ ·) masked mask
  let block := match opened with
    | [] => []
    | x :: rest => UInt8.ofNat (x.toNat % Nat.pow 2 (8 - spare)) :: rest
  let zeros := room - h.size - 1
  let salt := block.drop (zeros + 1)
  key.isUsable && signature.length == size && s < key.modulus && encoded < Nat.pow 256 width &&
    2 * h.size + 2 ≤ width && padded.drop (width - 1) == [0xBC] &&
    encoded / Nat.pow 2 bits == 0 &&
    block.take (zeros + 1) == List.replicate zeros 0 ++ [0x01] &&
    h.digest (List.replicate 8 0 ++ h.digest message ++ salt) == check

end Portcullis.Rsa
