/-
# What a check accepts

A signature exists when the secret has octets and the payload has a form; the check then compares
letters in either case (`verify_iff`).  The signature member of an object plays no part in it.

**Main statements.**  `sign_eq_ok_iff`, `verify_iff`, and `signObject_eq_ok_iff`.
-/
import Portcullis.Proofs.Digest.Length
import Portcullis.Proofs.Signature.Canonical
import Portcullis.Proofs.Text.Casing

namespace Portcullis

/-- What remains of a text after its start. -/
theorem Text.dropStart?_eq_some_iff (t start rest : Text) :
    t.dropStart? start = some rest ↔ t = start ++ rest := by
  induction start generalizing t with
  | nil => rw [dropStart?, Option.some.injEq, List.nil_append]
  | cons s start ih =>
    cases t with
    | nil => exact iff_of_false (Option.some_ne_none rest).symm (List.cons_ne_nil _ _).symm
    | cons c t =>
      rw [dropStart?, List.cons_append, List.cons.injEq]
      by_cases h : c = s
      · rw [if_pos h, ih, and_iff_right h]
      · rw [if_neg h]
        exact iff_of_false (Option.some_ne_none rest).symm fun heq => h heq.1

namespace Signature

open Json

/-- The signatures that there are. -/
theorem sign_eq_ok_iff (mode : SignatureMode) (secret : Text) (payload : Payload) (d : Text) :
    sign mode secret payload = .ok d
      ↔ ∃ key message, secret.utf8? = some key ∧ canonical mode payload = .ok message
        ∧ d = Bytes.hex ((hashOf mode).hmac key message) := by
  rw [sign]
  cases hkey : secret.utf8? with
  | none =>
    refine iff_of_false ?_ ?_
    · rintro ⟨⟩
    · rintro ⟨_, _, ⟨⟩, -⟩
  | some key =>
    cases hform : canonical mode payload with
    | error fault =>
      refine iff_of_false ?_ ?_
      · rintro ⟨⟩
      · rintro ⟨_, _, -, ⟨⟩, -⟩
    | ok message =>
      constructor
      · intro h
        exact ⟨key, message, rfl, rfl, (Except.ok.inj h).symm⟩
      · rintro ⟨_, _, ⟨⟩, ⟨⟩, rfl⟩
        rfl

/-- **What a check accepts** is the signature of the payload, in either letter case. -/
theorem verify_iff (mode : SignatureMode) (secret : Text) (payload : Payload) (t : Text) :
    verify mode secret payload (.text t) = true
      ↔ ∃ digits key message, presentedDigits mode t = some digits ∧ secret.utf8? = some key
        ∧ canonical mode payload = .ok message
        ∧ digits.asciiLower = Bytes.hex ((hashOf mode).hmac key message) := by
  rw [verify]
  cases hdigits : presentedDigits mode t with
  | none =>
    refine iff_of_false Bool.false_ne_true ?_
    rintro ⟨_, _, _, ⟨⟩, -⟩
  | some digits =>
    cases hsign : sign mode secret payload with
    | error fault =>
      refine iff_of_false Bool.false_ne_true ?_
      rintro ⟨_, key, message, -, hkey, hform, -⟩
      have hok := (sign_eq_ok_iff mode secret payload _).mpr ⟨key, message, hkey, hform, rfl⟩
      cases hsign.symm.trans hok
    | ok expected =>
      obtain ⟨key, message, hkey, hform, rfl⟩ := (sign_eq_ok_iff mode secret payload _).mp hsign
      refine (beq_iff_eq.trans (Text.lower_eq_hex_iff digits _)).trans ?_
      constructor
      · intro h
        exact ⟨digits, key, message, rfl, hkey, hform, h⟩
      · rintro ⟨_, key', message', ⟨⟩, hkey', hform', h⟩
        rw [hkey, Option.some.injEq] at hkey'
        rw [hform, Except.ok.injEq] at hform'
        subst hkey' hform'
        exact h

/-- The digits of a standard signature are the whole text. -/
theorem presentedDigits_standard {t : Text} (h : t ≠ []) :
    presentedDigits .standard t = some t := by
  cases t with
  | nil => exact absurd rfl h
  | cons c t => rfl

/-- The digits of a webhook signature stand behind its mark. -/
theorem presentedDigits_webhook_iff (t digits : Text) :
    presentedDigits .webhook t = some digits ↔ t = webhookMark ++ digits := by
  cases t with
  | nil => exact iff_of_false (Option.some_ne_none digits).symm (List.cons_ne_nil _ _).symm
  | cons c t => exact Text.dropStart?_eq_some_iff (c :: t) webhookMark digits

/-- Leaving out the signature beforehand changes nothing. -/
theorem canonical_erase (ms : Members) :
    canonical .standard (.json (.object (Members.erase field ms)))
      = canonical .standard (.json (.object ms)) := by
  have hform : ∀ ps : Members, canonical .standard (.json (.object ps))
      = (sortedTree sortingDepth (.object (Members.erase field ps))).bind octets := fun _ => rfl
  rw [hform, hform, Members.erase_erase]

/-- An object that is signed has the signature of the others of its members. -/
theorem signObject_eq_ok_iff (secret : Text) (ms signed : Members) :
    signObject secret ms = .ok signed
      ↔ ∃ key message, secret.utf8? = some key
        ∧ canonical .standard (.json (.object ms)) = .ok message
        ∧ signed = Members.set field (.text (Bytes.hex (Hash.sha256.hmac key message))) ms := by
  rw [signObject]
  cases hsign : sign .standard secret (.json (.object ms)) with
  | error fault =>
    refine iff_of_false ?_ ?_
    · rintro ⟨⟩
    · rintro ⟨key, message, hkey, hform, -⟩
      have hok := (sign_eq_ok_iff .standard secret (.json (.object ms)) _).mpr
        ⟨key, message, hkey, hform, rfl⟩
      cases hsign.symm.trans hok
  | ok signature =>
    obtain ⟨key, message, hkey, hform, rfl⟩ := (sign_eq_ok_iff _ _ _ _).mp hsign
    constructor
    · intro h
      exact ⟨key, message, hkey, hform, (Except.ok.inj h).symm⟩
    · rintro ⟨key', message', hkey', hform', rfl⟩
      rw [hkey, Option.some.injEq] at hkey'
      rw [hform, Except.ok.injEq] at hform'
      subst hkey' hform'
      rfl

end Signature

end Portcullis
