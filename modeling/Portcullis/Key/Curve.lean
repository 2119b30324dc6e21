/-
# Signatures on elliptic curves

Curves over prime fields, with their points in projective form, so that the only inversions are
those at the end.  A signature is the two numbers one after the other, each in the octets that a
coordinate takes.
-/
import Portcullis.Digest.Hmac
import Portcullis.Number.Modular

namespace Portcullis

/-! ## 1. Curves -/

/-- A curve of the form y² = x³ + a·x + b over a prime field, with a point of prime order. -/
structure Curve where
  name : Text
  objectId : Bytes
  prime : Nat
  a : Nat
  b : Nat
  baseX : Nat
  baseY : Nat
  order : Nat

namespace Curve

/-- The octets that a coordinate takes. -/
def fieldBytes (c : Curve) : Nat := Bytes.countFor c.prime

/-! ## 2. Points -/

/-- The point (x/z², y/z³); the neutral one has z = 0. -/
structure Point where
  x : Nat
  y : Nat
  z : Nat

/-- The neutral point. -/
def neutral : Point := ⟨1, 1, 0⟩

/-- A difference modulo the prime. -/
def sub (c : Curve) (u v : Nat) : Nat := Modular.sub u v c.prime

/-- The sum of a point with itself. -/
def double (c : Curve) (p : Point) : Point :=
  let m := c.prime
  if p.z = 0 ∨ p.y = 0 then neutral
  else
    let yy := p.y * p.y % m
    let s := 4 * p.x * yy % m
    let zz := p.z * p.z % m
    let slope := (3 * p.x * p.x + c.a * zz % m * zz) % m
    let x := c.sub (slope * slope) (2 * s)
    ⟨x, c.sub (slope * c.sub s x) (8 * yy * yy), 2 * p.y * p.z % m⟩

/-- The sum of two points. -/
def add (c : Curve) (p q : Point) : Point :=
  let m := c.prime
  if p.z = 0 then q
  else if q.z = 0 then p
  else
    let pzz := p.z * p.z % m
    let qzz := q.z * q.z % m
    let u₁ := p.x * qzz % m
    let u₂ := q.x * pzz % m
    let s₁ := p.y * qzz % m * q.z % m
    let s₂ := q.y * pzz % m * p.z % m
    if u₁ = u₂ then (if s₁ = s₂ then c.double p else neutral)
    else
      let h := c.sub u₂ u₁
      let r := c.sub s₂ s₁
      let hh := h * h % m
      let hhh := h * hh % m
      let v := u₁ * hh % m
      let x := c.sub (c.sub (r * r) hhh) (2 * v)
      ⟨x, c.sub (r * c.sub v x) (s₁ * hhh), h * p.z % m * q.z % m⟩

/-- A multiple of a point; the factor has at most so many bits. -/
def multiplyBits (c : Curve) : Nat → Nat → Point → Point
  | 0, _, _ => neutral
  | n + 1, k, p =>
    let half := multiplyBits c n (k / 2) (c.double p)
    if k % 2 = 1 then c.add half p else half

/-- A multiple of a point. -/
def multiply (c : Curve) (k : Nat) (p : Point) : Point := c.multiplyBits (k.log2 + 1) k p

/-- The first coordinate of a point that is not neutral. -/
def Point.affineX (c : Curve) (p : Point) : Nat :=
  p.x * Modular.inverse (p.z * p.z % c.prime) c.prime % c.prime

/-- The second coordinate of a point that is not neutral. -/
def Point.affineY (c : Curve) (p : Point) : Nat :=
  p.y * Modular.inverse (p.z * p.z % c.prime * p.z % c.prime) c.prime % c.prime

/-- The point of given order that the curve comes with. -/
def base (c : Curve) : Point := ⟨c.baseX, c.baseY, 1⟩

/-- The side of the curve's equation in which only the first coordinate is. -/
def rightSide (c : Curve) (x : Nat) : Nat := (x * x * x + c.a * x + c.b) % c.prime

/-- Whether two coordinates belong to a point of the curve. -/
def contains (c : Curve) (x y : Nat) : Bool :=
  x < c.prime && y < c.prime && y * y % c.prime == c.rightSide x

/-- The point of a first coordinate whose second one has a parity. -/
def withParity? (c : Curve) (x parity : Nat) : Option Point :=
  let root := Modular.squareRoot (c.rightSide x) c.prime
  let y := if root % 2 = parity then root else c.prime - root
  if c.contains x y then some ⟨x, y, 1⟩ else none

/-- The point that a sequence of octets stands for: one coordinate and the parity of the other, both
coordinates, or both and the parity. -/
def readPoint? (c : Curve) (b : Bytes) : Option Point :=
  match b with
  | [] => none
  | tag :: rest =>
    let n := c.fieldBytes
    let x := Bytes.toNat (rest.take n)
    let y := Bytes.toNat (rest.drop n)
    if (tag = 0x02 ∨ tag = 0x03) ∧ rest.length = n then c.withParity? x (tag.toNat % 2)
    else if (tag = 0x04 ∨ (tag = 0x06 ∨ tag = 0x07) ∧ y % 2 = tag.toNat % 2) ∧
        rest.length = 2 * n ∧ c.contains x y then
      some ⟨x, y, 1⟩
    else none

/-- Whether two points that are not neutral are the same. -/
def isSame (c : Curve) (p q : Point) : Bool :=
  p.affineX c == q.affineX c && p.affineY c == q.affineY c

/-! ## 3. Signatures -/

/-- The leading bits of a digest, as many as the order has. -/
def digestNumber (c : Curve) (digest : Bytes) : Nat :=
  Bytes.toNat digest >>> (8 * digest.length - (c.order.log2 + 1))

/-- Whether a signature is the one of a public point for a message. -/
def verify (c : Curve) (h : Hash) (key : Point) (message signature : Bytes) : Bool :=
  let size := c.fieldBytes
  let r := Bytes.toNat (signature.take size)
  let s := Bytes.toNat (signature.drop size)
  let n := c.order
  if signature.length = 2 * size ∧ 0 < r ∧ r < n ∧ 0 < s ∧ s < n then
    let e := c.digestNumber (h.digest message)
    let w := Modular.inverse s n
    let p := c.add (c.multiply (e * w % n) c.base) (c.multiply (r * w % n) key)
    p.z ≠ 0 && p.affineX c % n == r
  else false

end Curve

end Portcullis
