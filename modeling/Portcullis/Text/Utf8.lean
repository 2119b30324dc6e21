/-
# UTF-8

Writing fails at a surrogate.  Reading goes octet by octet and marks each ill-formed stretch once,
the longest one that could still have begun a code point; what a mark becomes is the caller's
choice.  On demand the three octets of a surrogate are read as that surrogate.
-/
import Portcullis.Bytes.Basic

namespace Portcullis

/-! ## 1. Writing -/

/-- The one to four octets of a code point. -/
def CodePoint.utf8 (c : CodePoint) : Bytes :=
  let n := c.val
  let tail (shift : Nat) := UInt8.ofNat (0x80 + n / shift % 64)
  if n < 0x80 then [UInt8.ofNat n]
  else if n < 0x800 then [UInt8.ofNat (0xC0 + n / 64), tail 1]
  else if n < 0x10000 then [UInt8.ofNat (0xE0 + n / 4096), tail 64, tail 1]
  else [UInt8.ofNat (0xF0 + n / 262144), tail 4096, tail 64, tail 1]

/-- The octets of a text without surrogates; a text with one has none. -/
def Text.utf8? (t : Text) : Option Bytes :=
  if t.any CodePoint.isSurrogate then none else some (t.flatMap CodePoint.utf8)

namespace Utf8

/-! ## 2. Reading -/

/-- A code point of which some octets are read: how many are missing, the range of the next one,
and the bits so far. -/
structure Pending where
  missing : Nat
  low : Nat
  high : Nat
  bits : Nat

/-- What is read so far, the latest first, with `none` for an ill-formed stretch, and the code
point under way. -/
structure Scan where
  done : List (Option CodePoint)
  pending : Option Pending

/-- Reads an octet at which a code point begins. -/
def Scan.start (surrogates : Bool) (done : List (Option CodePoint)) (x : Nat) : Scan :=
  let lead (missing low high bits : Nat) : Scan := ⟨done, some ⟨missing, low, high, bits⟩⟩
  if x < 0x80 then ⟨some (CodePoint.ofNat x) :: done, none⟩
  else if x < 0xC2 then ⟨none :: done, none⟩
  else if x < 0xE0 then lead 1 0x80 0xBF (x - 0xC0)
  else if x = 0xE0 then lead 2 0xA0 0xBF 0
  else if x = 0xED then lead 2 0x80 (if surrogates then 0xBF else 0x9F) 0xD
  else if x < 0xF0 then lead 2 0x80 0xBF (x - 0xE0)
  else if x = 0xF0 then lead 3 0x90 0xBF 0
  else if x < 0xF4 then lead 3 0x80 0xBF (x - 0xF0)
  else if x = 0xF4 then lead 3 0x80 0x8F 4
  else ⟨none :: done, none⟩

/-- Reads one octet. -/
def Scan.step (surrogates : Bool) (s : Scan) (octet : UInt8) : Scan :=
  let x := octet.toNat
  match s.pending with
  | none => Scan.start surrogates s.done x
  | some p =>
    if p.low ≤ x ∧ x ≤ p.high then
      let bits := p.bits * 64 + (x - 0x80)
      if p.missing ≤ 1 then ⟨some (CodePoint.ofNat bits) :: s.done, none⟩
      else ⟨s.done, some ⟨p.missing - 1, 0x80, 0xBF, bits⟩⟩
    else Scan.start surrogates (none :: s.done) x

/-- What is read at the end: a code point under way is ill-formed. -/
def Scan.finish (s : Scan) : List (Option CodePoint) :=
  (match s.pending with | none => s.done | some _ => none :: s.done).reverse

/-- The code points of a sequence of octets, with `none` for each ill-formed stretch. -/
def scan (surrogates : Bool) (b : Bytes) : List (Option CodePoint) :=
  (b.foldl (Scan.step surrogates) ⟨[], none⟩).finish

/-- The text, if every octet belongs to a code point. -/
def decode? (b : Bytes) : Option Text := (scan false b).mapM id

/-- The text, surrogates allowed, if every octet belongs to a code point. -/
def decodeWithSurrogates? (b : Bytes) : Option Text := (scan true b).mapM id

/-- The text, with a replacement character for each ill-formed stretch. -/
def decodeLossy (b : Bytes) : Text :=
  (scan false b).map fun c => c.getD (CodePoint.ofNat 0xFFFD)

end Utf8

end Portcullis
