/-
# The length of a digest

**Main statements.**  Every digest has the size of its hash function (`length_digest`), and so has
every authentication code (`length_hmac`).
-/
import Portcullis.Bytes.Hex
import Portcullis.Digest.Hmac

namespace Portcullis

theorem Bytes.length_ofNat (width n : Nat) : (Bytes.ofNat width n).length = width := by
  rw [Bytes.ofNat, List.length_map, List.length_reverse, List.length_range]

/-- The words of a list, in octets. -/
theorem Bytes.length_flatMap_ofNat (width : Nat) (words : List Nat) :
    (words.flatMap (Bytes.ofNat width)).length = words.length * width := by
  induction words with
  | nil => rw [List.flatMap_nil, List.length_nil, List.length_nil, Nat.zero_mul]
  | cons w words ih =>
    rw [List.flatMap_cons, List.length_append, Bytes.length_ofNat, ih, List.length_cons,
      Nat.succ_mul, Nat.add_comm]

theorem Sha2.Params.length_digest (p : Params) (h : p.size ≤ 8 * p.wordBytes) (message : Bytes) :
    (p.digest message).length = p.size := by
  rw [Params.digest, List.length_take, Bytes.length_flatMap_ofNat]
  exact Nat.min_eq_left h

namespace Hash

/-- **A digest has the size of its hash function.** -/
theorem length_digest (h : Hash) (message : Bytes) : (h.digest message).length = h.size := by
  cases h with
  | sha1 => exact Bytes.length_flatMap_ofNat 4 _
  | sha256 => exact Sha2.sha256.length_digest (by decide) message
  | sha384 => exact Sha2.sha384.length_digest (by decide) message
  | sha512 => exact Sha2.sha512.length_digest (by decide) message

/-- **So has an authentication code.** -/
theorem length_hmac (h : Hash) (key message : Bytes) : (h.hmac key message).length = h.size :=
  h.length_digest _

/-- The hexadecimal text of an authentication code is not empty. -/
theorem hex_hmac_ne_nil (h : Hash) (key message : Bytes) :
    Bytes.hex (h.hmac key message) ≠ [] := by
  intro hnil
  have hlength := Bytes.length_hex (h.hmac key message)
  rw [hnil, length_hmac] at hlength
  cases h with
  | sha1 => exact absurd hlength (by decide)
  | sha256 => exact absurd hlength (by decide)
  | sha384 => exact absurd hlength (by decide)
  | sha512 => exact absurd hlength (by decide)

end Hash

end Portcullis
