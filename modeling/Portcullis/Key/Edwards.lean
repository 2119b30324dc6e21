/-
# Signatures on Edwards curves

The curves a·x² + y² = 1 + d·x²·y² over a prime field.  A point is written as its second coordinate,
the least significant octet first, with the parity of the first coordinate in the highest bit.
A signature is a point and a number; both follow from the key and the message alone.
-/
import Portcullis.Digest.Hmac
import Portcullis.Digest.Sha3
import Portcullis.Number.Modular

namespace Portcullis

/-! ## 1. Curves -/

/-- A curve with a point of prime order, the octets that a point takes, and the digest in use. -/
structure Edwards where
  prime : Nat
  a : Nat
  d : Nat
  baseX : Nat
  baseY : Nat
  order : Nat
  /-- Octets of a key, of a point and of a number. -/
  size : Nat
  /-- The power of two that every secret number is a multiple of. -/
  cofactor : Nat
  /-- The highest bit of every secret number. -/
  topBit : Nat
  /-- What stands before every message that is hashed. -/
  start : Bytes
  /-- A digest of twice as many octets as a key. -/
  digest : Bytes → Bytes

namespace Edwards

/-- The curve over the prime 2²⁵⁵ − 19. -/
def ed25519 : Edwards where
  prime := Nat.pow 2 255 - 19
  a := Nat.pow 2 255 - 20
  d := 0x52036CEE2B6FFE738CC740797779E89800700A4D4141D8AB75EB4DCA135978A3
  baseX := 0x216936D3CD6E53FEC0A4E231FDD6DC5C692CC7609525A7B2C9562D608F25D51A
  baseY := 0x6666666666666666666666666666666666666666666666666666666666666658
  order := Nat.pow 2 252 + 0x14DEF9DEA2F79CD65812631A5CF5D3ED
  size := 32
  cofactor := 8
  topBit := 254
  start := []
  digest := Hash.sha512.digest

/-- The curve over the prime 2⁴⁴⁸ − 2²²⁴ − 1. -/
def ed448 : Edwards where
  prime := Nat.pow 2 448 - Nat.pow 2 224 - 1
  a := 1
  d := Nat.pow 2 448 - Nat.pow 2 224 - 39082
  baseX := 0x4F1970C66BED0DED221D15A622BF36DA9E146570470F1767EA6DE324 * Nat.pow 2 224
    + 0xA3D3A46412AE1AF72AB66511433B80E18B00938E2626A82BC70CC05E
  baseY := 0x693F46716EB6BC248876203756C9C7624BEA73736CA3984087789C1E * Nat.pow 2 224
    + 0x05A0C2D73AD3FF1CE67C39C4FDBD132C4ED7C8AD9808795BF230FA14
  order := Nat.pow 2 446 - 0x8335DC163BB124B65129C96FDE933D8D723A70AADC873D6D54A7BB0D
  size := 57
  cofactor := 4
  topBit := 447
  start := Bytes.ofAscii "SigEd448" ++ [0, 0]
  digest := Sha3.shake256 114

/-! ## 2. Points -/

/-- The point (x/z, y/z). -/
structure Point where
  x : Nat
  y : Nat
  z : Nat

/-- The neutral point. -/
def neutral : Point := ⟨0, 1, 1⟩

/-- The sum of two points; the same formula serves for equal ones. -/
def add (c : Edwards) (p q : Point) : Point :=
  let m := c.prime
  let z := p.z * q.z % m
  let zz := z * z % m
  let xx := p.x * q.x % m
  let yy := p.y * q.y % m
  let e := c.d * xx % m * yy % m
  let f := Modular.sub zz e m
  let g := (zz + e) % m
  let cross := Modular.sub ((p.x + p.y) * (q.x + q.y)) (xx + yy) m
  ⟨z * f % m * cross % m, z * g % m * Modular.sub yy (c.a * xx) m % m, f * g % m⟩

/-- A multiple of a point; the factor has at most so many bits. -/
def multiplyBits (c : Edwards) : Nat → Nat → Point → Point
  | 0, _, _ => neutral
  | n + 1, k, p =>
    let half := multiplyBits c n (k / 2) (c.add p p)
    if k % 2 = 1 then c.add half p else half

/-- A multiple of a point. -/
def multiply (c : Edwards) (k : Nat) (p : Point) : Point := c.multiplyBits (k.log2 + 1) k p

/-- The point that the curve comes with. -/
def base (c : Edwards) : Point := ⟨c.baseX, c.baseY, 1⟩

/-! ## 3. Octets -/

/-- The number whose least significant octet comes first. -/
def numberOf (b : Bytes) : Nat := Bytes.toNat b.reverse

/-- The octets of a number, the least significant one first. -/
def octetsOf (c : Edwards) (n : Nat) : Bytes := (Bytes.ofNat c.size n).reverse

/-- The place of the parity bit. -/
def parityUnit (c : Edwards) : Nat := Nat.pow 2 (8 * c.size - 1)

/-- The octets of a point. -/
def writePoint (c : Edwards) (p : Point) : Bytes :=
  let w := Modular.inverse p.z c.prime
  let x := p.x * w % c.prime
  let y := p.y * w % c.prime
  c.octetsOf (y + x % 2 * c.parityUnit)

/-- The point that octets stand for. -/
def readPoint? (c : Edwards) (b : Bytes) : Option Point :=
  let n := numberOf b
  let m := c.prime
  let y := n % c.parityUnit
  let yy := y * y % m
  let square := Modular.sub 1 yy m * Modular.inverse (Modular.sub c.a (c.d * yy) m) m % m
  let root := Modular.squareRoot square m
  let x := if root % 2 = n / c.parityUnit then root else (m - root) % m
  if b.length = c.size ∧ root * root % m = square then some ⟨x, y % m, 1⟩ else none

/-! ## 4. Signatures -/

/-- The digest of some octets as a number below the order. -/
def challenge (c : Edwards) (b : Bytes) : Nat := numberOf (c.digest (c.start ++ b)) % c.order

/-- The secret number in the digest of a key: a multiple of the cofactor, its highest bit fixed. -/
def secretNumber (c : Edwards) (digest : Bytes) : Nat :=
  let n := numberOf (digest.take c.size) % Nat.pow 2 c.topBit
  n - n % c.cofactor + Nat.pow 2 c.topBit

/-- The public half of a key. -/
def publicOf (c : Edwards) (key : Bytes) : Bytes :=
  c.writePoint (c.multiply (c.secretNumber (c.digest key)) c.base)

/-- The signature of a message under a key. -/
def sign (c : Edwards) (key message : Bytes) : Bytes :=
  let digest := c.digest key
  let secret := c.secretNumber digest
  let nonce := c.challenge (digest.drop c.size ++ message)
  let point := c.writePoint (c.multiply nonce c.base)
  let k := c.challenge (point ++ c.publicOf key ++ message)
  point ++ c.octetsOf ((nonce + k * secret) % c.order)

/-- Whether a signature is the one of a public half for a message. -/
def verify (c : Edwards) (key message signature : Bytes) : Bool :=
  let first := signature.take c.size
  let s := numberOf (signature.drop c.size)
  match c.readPoint? key with
  | none => false
  | some p =>
    let k := c.challenge (first ++ key ++ message)
    let minus : Point := ⟨(c.prime - p.x) % c.prime, p.y, p.z⟩
    signature.length == 2 * c.size && s < c.order
      && c.writePoint (c.add (c.multiply s c.base) (c.multiply k minus)) == first

end Edwards

end Portcullis
