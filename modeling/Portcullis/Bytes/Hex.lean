/-
# Hexadecimal text

Two small digits an octet, the more significant one first.
-/
import Portcullis.Bytes.Basic

namespace Portcullis.Bytes

/-- The two digits of an octet. -/
def hexPair (x : UInt8) : Text := [Text.hexDigit (x.toNat / 16), Text.hexDigit (x.toNat % 16)]

/-- The hexadecimal text of a sequence of octets. -/
def hex (b : Bytes) : Text := b.flatMap hexPair

/-- A hexadecimal text has two digits for each octet. -/
theorem length_hex (b : Bytes) : (hex b).length = 2 * b.length := by
  induction b with
  | nil => rfl
  | cons x b ih => simp only [hex, List.flatMap_cons, List.length_append] at ih ⊢
                   simp only [ih, hexPair, List.length_cons, List.length_nil]
                   omega

end Portcullis.Bytes
