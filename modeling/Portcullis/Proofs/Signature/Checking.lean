/-
# Checking is the inverse of signing

A check says yes to one kind of text: what signing yields, in either letter case, behind the mark of
the mode.  It says no to everything else, and that includes payloads and secrets for which there is
no signature.  Nothing but four plain kinds of fault stands in the way of one (`Unsignable`), and
those are what a check takes for a no.

**Main statement.**  `verify_eq_true_iff`.
-/
import Portcullis.Proofs.Results
import Portcullis.Proofs.Signature.Verify

namespace Portcullis

namespace Signature

/-! ## 1. What stands in the way of a signature -/

/-- The faults for which there is no signature: a payload of the wrong kind, a number without a
text, a surrogate in a text, and nesting beyond the bound. -/
inductive Unsignable : Fault → Prop
  | type (message : Text) : Unsignable (.plain .type message)
  | value (message : Text) : Unsignable (.plain .value message)
  | encoding (message : Text) : Unsignable (.plain .encoding message)
  | recursion (message : Text) : Unsignable (.plain .recursion message)

theorem failsOnly_octets (v : Json) : FailsOnly Unsignable v.octets := by
  rw [Json.octets]
  split
  · exact failsOnly_error (.recursion _)
  split
  · exact failsOnly_error (.value _)
  split
  · exact failsOnly_error (.value _)
  split
  · exact failsOnly_ok _
  · exact failsOnly_error (.encoding _)

theorem failsOnly_sortedTree (depth : Nat) (v : Json) :
    FailsOnly Unsignable (sortedTree depth v) := by
  rw [sortedTree]
  split
  · exact failsOnly_ok _
  · exact failsOnly_error (.recursion _)

theorem failsOnly_canonical (mode : SignatureMode) (payload : Payload) :
    FailsOnly Unsignable (canonical mode payload) := by
  unfold canonical
  split
  · exact failsOnly_ok _
  · split
    · exact failsOnly_ok _
    · exact failsOnly_error (.encoding _)
  · split
    · exact failsOnly_ok _
    · exact failsOnly_error (.encoding _)
  · exact failsOnly_octets _
  · exact (failsOnly_sortedTree _ _).bind fun tree _ => failsOnly_octets tree
  · exact failsOnly_error (.type _)

/-- **Signing fails** with a fault of one of the four kinds, if it fails. -/
theorem failsOnly_sign (mode : SignatureMode) (secret : Text) (payload : Payload) :
    FailsOnly Unsignable (sign mode secret payload) := by
  rw [sign]
  split
  · exact failsOnly_error (.encoding _)
  · exact (failsOnly_canonical mode payload).bind fun message _ => failsOnly_ok _

/-! ## 2. What is accepted -/

/-- What a presented signature begins with: nothing in the standard mode. -/
def markOf : SignatureMode → Text
  | .standard => []
  | .webhook => "sha1="

/-- The digits of a presented text that is not empty stand behind the mark. -/
theorem presentedDigits_eq_some_iff {mode : SignatureMode} {t : Text} (hne : t ≠ [])
    (digits : Text) : presentedDigits mode t = some digits ↔ t = markOf mode ++ digits := by
  cases mode with
  | standard => rw [presentedDigits_standard hne, Option.some.injEq, markOf, List.nil_append]
  | webhook => exact presentedDigits_webhook_iff t digits

/-- What signing yields is not empty, is in small letters, and is ASCII. -/
theorem of_sign {mode : SignatureMode} {secret : Text} {payload : Payload} {d : Text}
    (h : sign mode secret payload = .ok d) : d ≠ [] ∧ d.asciiLower = d ∧ d.isAscii = true := by
  obtain ⟨key, message, -, -, rfl⟩ := (sign_eq_ok_iff mode secret payload d).mp h
  exact ⟨(hashOf mode).hex_hmac_ne_nil key message, Text.asciiLower_hex _,
    Text.isAscii_of_isSmall fun _ => Text.isSmall_of_mem_hex⟩

section Text

variable {mode : SignatureMode} {secret : Text} {payload : Payload}

/-- The texts that are accepted. -/
theorem verify_text_iff (t : Text) : verify mode secret payload (.text t) = true
    ↔ ∃ d digits, sign mode secret payload = .ok d ∧ t = markOf mode ++ digits
      ∧ digits.asciiLower = d.asciiLower := by
  rw [verify_iff]
  constructor
  · rintro ⟨digits, key, message, hdigits, hkey, hform, hspells⟩
    have hne : t ≠ [] := by
      rintro rfl
      cases mode with
      | standard => cases hdigits
      | webhook => cases hdigits
    refine ⟨_, digits, (sign_eq_ok_iff mode secret payload _).mpr ⟨key, message, hkey, hform, rfl⟩,
      (presentedDigits_eq_some_iff hne digits).mp hdigits, ?_⟩
    rw [hspells, Text.asciiLower_hex]
  · rintro ⟨d, digits, hsign, rfl, hspells⟩
    obtain ⟨hne, hsmall, -⟩ := of_sign hsign
    obtain ⟨key, message, hkey, hform, rfl⟩ := (sign_eq_ok_iff mode secret payload d).mp hsign
    have hdigits : digits ≠ [] := by
      rintro rfl
      exact hne (hsmall.symm.trans hspells.symm)
    exact ⟨digits, key, message,
      (presentedDigits_eq_some_iff (List.append_ne_nil_of_right_ne_nil _ hdigits) digits).mpr rfl,
      hkey, hform, hspells.trans hsmall⟩

/-- **What is signed is accepted.** -/
theorem verify_sign {d : Text} (h : sign mode secret payload = .ok d) :
    verify mode secret payload (.text (markOf mode ++ d)) = true :=
  (verify_text_iff _).mpr ⟨d, d, h, rfl, rfl⟩

/-- **Nothing outside ASCII is accepted**, whatever its small letters are. -/
theorem verify_of_not_isAscii {t : Text} (h : t.isAscii = false) :
    verify mode secret payload (.text t) = false := by
  refine Bool.eq_false_iff.mpr fun hverify => ?_
  obtain ⟨d, digits, hsign, rfl, hspells⟩ := (verify_text_iff t).mp hverify
  obtain ⟨-, hsmall, hascii⟩ := of_sign hsign
  have hmark : (markOf mode).isAscii = true := by
    cases mode with
    | standard => rfl
    | webhook => decide
  have hdigits : digits.isAscii = true := by
    rw [← Text.isAscii_asciiLower, hspells, hsmall, hascii]
  have hboth : (markOf mode ++ digits).isAscii = true := by
    rw [Text.isAscii, List.all_append]
    exact Bool.and_eq_true_iff.mpr ⟨hmark, hdigits⟩
  exact Bool.false_ne_true (h.symm.trans hboth)

end Text

/-- **A value is accepted as the signature of a payload** exactly if there is a signature and the
value is its text, in either letter case and behind the mark of the mode.  So a signature itself is
accepted, and nothing outside ASCII is; and where there is no signature, the fault is one of those
that a check takes for a no. -/
theorem verify_eq_true_iff (mode : SignatureMode) (secret : Text) (payload : Payload) :
    (∀ signature, verify mode secret payload signature = true
      ↔ ∃ d digits, sign mode secret payload = .ok d ∧ signature = .text (markOf mode ++ digits)
        ∧ digits.asciiLower = d.asciiLower)
      ∧ (∀ d, sign mode secret payload = .ok d →
        verify mode secret payload (.text (markOf mode ++ d)) = true)
      ∧ (∀ t, t.isAscii = false → verify mode secret payload (.text t) = false)
      ∧ ∀ fault, sign mode secret payload = .error fault → Unsignable fault := by
  refine ⟨fun signature => ?_, fun _ => verify_sign, fun _ => verify_of_not_isAscii,
    failsOnly_sign mode secret payload⟩
  cases signature with
  | text t => simpa using verify_text_iff t
  | _ =>
    refine iff_of_false Bool.false_ne_true ?_
    rintro ⟨_, _, -, ⟨⟩, -⟩

end Signature

end Portcullis
