/-
# Signed requests

A request carries a signature under a secret in one of two ways (`Carries`): in the standard mode as
a member of the payload, over the canonical form of the others, and in the webhook mode in a header,
over the octets of the body.  Authentication accepts what carries its signature, and refuses
everything else in one way.

**Main statements.**  `outcome_authenticate_hmac` and `authenticate_hmac_iff`.
-/
import Portcullis.Proofs.Authentication.Outcome
import Portcullis.Proofs.Signature.Verify

namespace Portcullis.Authentication

open Signature

/-! ## 1. What a signed request is -/

/-- The payload that a request signs in the standard mode: the query of a `GET`, the body of every
other request. -/
def signedPayload (r : Request) : Json :=
  if r.method = "GET" then .object r.queryMembers else r.jsonBody

/-- The request carries the signature of its payload under a secret. -/
inductive Carries (secret : Text) (r : Request) : Bool → Prop
  /-- In the standard mode the signature is a text in the payload. -/
  | standard {key message : Bytes} {ms : Members} {t : Text} (octets : secret.utf8? = some key)
      (payload : signedPayload r = .object ms)
      (signature : Members.get? "signature" ms = some (.text t)) (filled : t ≠ [])
      (form : canonical .standard (.json (.object ms)) = .ok message)
      (digits : t.asciiLower = Bytes.hex (Hash.sha256.hmac key message)) : Carries secret r false
  /-- In the webhook mode it stands in a header, behind its mark. -/
  | webhook {key : Bytes} {digits : Text} (octets : secret.utf8? = some key)
      (header : r.header? "x-hub-signature" = some (("sha1=" : Text) ++ digits))
      (digits : digits.asciiLower = Bytes.hex (Hash.sha1.hmac key r.body)) : Carries secret r true

/-- The secret that counts: that of the strategy unless it is missing or empty, and that of the
trust then.  It is not empty. -/
def IsEffective (trust : Trust) (secret : Option Text) (s : Text) : Prop :=
  s ≠ [] ∧ (secret = some s ∨ (secret = none ∨ secret = some []) ∧ trust.signatureSecret = some s)

theorem filled?_eq_some_iff (o : Option Text) (s : Text) :
    Trust.filled? o = some s ↔ o = some s ∧ s ≠ [] := by
  cases o with
  | none =>
    refine iff_of_false (Option.some_ne_none s).symm ?_
    rintro ⟨⟨⟩, -⟩
  | some t =>
    cases t with
    | nil =>
      refine iff_of_false (Option.some_ne_none s).symm ?_
      rintro ⟨heq, hne⟩
      exact hne (Option.some.inj heq).symm
    | cons c t => exact ⟨fun h => ⟨h, Option.some.inj h ▸ List.cons_ne_nil c t⟩, fun h => h.1⟩

theorem effectiveSecret_eq_some_iff (trust : Trust) (secret : Option Text) (s : Text) :
    trust.effectiveSecret secret = some s ↔ IsEffective trust secret s := by
  have hfallback : Trust.filled? secret = none ↔ secret = none ∨ secret = some [] := by
    cases secret with
    | none => exact iff_of_true rfl (Or.inl rfl)
    | some t =>
      cases t with
      | nil => exact iff_of_true rfl (Or.inr rfl)
      | cons c t =>
        refine iff_of_false (Option.some_ne_none _) ?_
        rintro (heq | heq)
        · cases heq
        · cases heq
  rw [Trust.effectiveSecret, IsEffective, Option.orElse_eq_orElse, Option.orElse_eq_or,
    Option.or_eq_some_iff, filled?_eq_some_iff, filled?_eq_some_iff, hfallback]
  constructor
  · rintro (⟨hown, hne⟩ | ⟨hnone, hshared, hne⟩)
    · exact ⟨hne, Or.inl hown⟩
    · exact ⟨hne, Or.inr ⟨hnone, hshared⟩⟩
  · rintro ⟨hne, hown | ⟨hnone, hshared⟩⟩
    · exact Or.inl ⟨hown, hne⟩
    · exact Or.inr ⟨hnone, hshared, hne⟩

/-! ## 2. The check -/

/-- The mode of a strategy. -/
def modeOf (webhook : Bool) : SignatureMode := if webhook then .webhook else .standard

/-- A text is presented that is the signature of what is presented with it. -/
def Presents (s : Text) (webhook : Bool) (r : Request) : Prop :=
  ∃ t, t ≠ [] ∧ (presented webhook r).2 = .text t
    ∧ verify (modeOf webhook) s (presented webhook r).1 (.text t) = true

/-- The check accepts such a text and refuses everything else. -/
theorem outcome_hmac {trust : Trust} {secret : Option Text} {s : Text}
    (hs : trust.effectiveSecret secret = some s) (webhook : Bool) (r : Request) :
    (Presents s webhook r ∧ (hmac trust secret webhook r).outcome = .ok { kind := .hmac })
      ∨ (¬ Presents s webhook r ∧ ∃ message data, (hmac trust secret webhook r).outcome
          = .error (.web message "unauthorized" 401 (.ok data) .null none)) := by
  unfold hmac Presents
  rw [hs]
  generalize presented webhook r = p
  obtain ⟨payload, value⟩ := p
  have hmissing : (∀ t, t ≠ [] → value ≠ .text t) →
      ¬ ∃ t, t ≠ [] ∧ value = .text t ∧ verify (modeOf webhook) s payload (.text t) = true := by
    rintro h ⟨t, hne, hvalue, -⟩
    exact h t hne hvalue
  cases value with
  | text t =>
    cases t with
    | nil => exact Or.inr ⟨hmissing fun t hne h => hne (Json.text.inj h).symm, _, _, rfl⟩
    | cons c t =>
      cases hverify : verify (modeOf webhook) s payload (.text (c :: t)) with
      | true =>
        refine Or.inl ⟨⟨c :: t, List.cons_ne_nil c t, rfl, hverify⟩, ?_⟩
        refine (Attempt.outcome_note_bind _ _ _).trans ?_
        rw [modeOf] at hverify
        rw [if_pos hverify]
        rfl
      | false =>
        refine Or.inr ⟨?_, "Signature does not match hmac of payload",
          .object [("signature", .text (c :: t))], ?_⟩
        · rintro ⟨_, -, ⟨⟩, h⟩
          exact absurd (hverify.symm.trans h) Bool.false_ne_true
        · refine (Attempt.outcome_note_bind _ _ _).trans ?_
          rw [modeOf] at hverify
          rw [if_neg (ne_true_of_eq_false hverify)]
          rfl
  | _ =>
    refine Or.inr ⟨hmissing ?_, _, _, rfl⟩
    rintro t - ⟨⟩

/-! ## 3. What is presented -/

/-- In the webhook mode the header is presented, for the octets of the body. -/
theorem presents_webhook_iff (s : Text) (r : Request) :
    Presents s true r ↔ Carries s r true := by
  constructor
  · rintro ⟨t, -, hpresented, hverify⟩
    obtain ⟨digits, key, message, hdigits, hkey, hform, hspells⟩ := (verify_iff _ _ _ _).mp hverify
    have hmark := (presentedDigits_webhook_iff t digits).mp hdigits
    have hbody : r.body = message := Except.ok.inj hform
    subst hbody
    refine .webhook hkey ?_ hspells
    cases hheader : r.header? webhookHeader with
    | none =>
      rw [presented, if_pos rfl, hheader] at hpresented
      cases hpresented
    | some u =>
      rw [presented, if_pos rfl, hheader] at hpresented
      rw [← Json.text.inj hpresented] at hmark
      exact hheader.trans (congrArg some hmark)
  · intro h
    cases h with
    | @webhook key digits hkey hheader hspells =>
      have hpresented : presented true r = (.octets r.body, .text (webhookMark ++ digits)) := by
        rw [presented, if_pos rfl]
        exact congrArg (fun o => (Payload.octets r.body, Json.ofText? o)) hheader
      refine ⟨webhookMark ++ digits, ?_, congrArg Prod.snd hpresented, ?_⟩
      · exact fun hnil => absurd (List.append_eq_nil_iff.mp hnil).1 (by decide)
      · rw [hpresented]
        exact (verify_iff _ _ _ _).mpr ⟨digits, key, r.body,
          (presentedDigits_webhook_iff _ digits).mpr rfl, hkey, rfl, hspells⟩

/-- An object is presented without its signature, beside it. -/
theorem presented_standard {r : Request} {ms : Members} (h : signedPayload r = .object ms) :
    presented false r = (.json (.object (Members.erase field ms)), Members.getD ms field) := by
  unfold signedPayload at h
  simp only [presented, Bool.false_eq_true, if_false, h]

/-- No other payload has a signature in it. -/
theorem signedPayload_of_presented {r : Request} {t : Text}
    (h : (presented false r).2 = .text t) : ∃ ms, signedPayload r = .object ms := by
  cases hpayload : signedPayload r with
  | object ms => exact ⟨ms, rfl⟩
  | _ =>
    unfold signedPayload at hpayload
    simp only [presented, Bool.false_eq_true, if_false, hpayload] at h
    cases h

/-- In the standard mode the signature in the payload is presented, for the payload. -/
theorem presents_standard_iff (s : Text) (r : Request) :
    Presents s false r ↔ Carries s r false := by
  constructor
  · rintro ⟨t, hne, hvalue, hverify⟩
    obtain ⟨ms, hpayload⟩ := signedPayload_of_presented hvalue
    rw [presented_standard hpayload] at hvalue hverify
    obtain ⟨digits, key, message, hdigits, hkey, hform, hspells⟩ := (verify_iff _ _ _ _).mp hverify
    have hall : t = digits :=
      Option.some.inj ((presentedDigits_standard hne).symm.trans hdigits)
    subst hall
    exact .standard hkey hpayload (Members.get?_of_getD hvalue rfl) hne
      ((canonical_erase ms).symm.trans hform) hspells
  · intro h
    cases h with
    | @standard key message ms t hkey hpayload hsignature hne hform hdigits =>
      have hvalue : Members.getD ms field = .text t := congrArg (Option.getD · Json.null) hsignature
      rw [Presents, presented_standard hpayload]
      refine ⟨t, hne, hvalue, ?_⟩
      exact (verify_iff _ _ _ _).mpr ⟨t, key, message, presentedDigits_standard hne, hkey,
        (canonical_erase ms).trans hform, hdigits⟩

/-! ## 4. Authentication -/

/-- What carries its signature is accepted, and everything else is refused. -/
theorem outcome_authenticate_hmac {trust : Trust} {secret : Option Text} {s : Text}
    (hs : trust.effectiveSecret secret = some s) (webhook : Bool) (r : Request) (now : Instant) :
    (Carries s r webhook
        ∧ (authenticate trust (.hmac secret webhook) r now).outcome = .ok { kind := .hmac })
      ∨ (¬ Carries s r webhook
        ∧ ∃ message data, (authenticate trust (.hmac secret webhook) r now).outcome
          = .error (.web message "unauthorized" 401 (.ok data) .null none)) := by
  have hpresents : Presents s webhook r ↔ Carries s r webhook := by
    cases webhook with
    | false => exact presents_standard_iff s r
    | true => exact presents_webhook_iff s r
  rw [← hpresents]
  rcases outcome_hmac hs webhook r with ⟨hpresented, hok⟩ | ⟨hno, message, data, herror⟩
  · exact Or.inl ⟨hpresented, authenticate_ok_iff.mpr hok⟩
  · have hcheck : (check trust (.hmac secret webhook) r now).outcome = _ := herror
    exact Or.inr ⟨hno, message, data, outcome_authenticate_of_error hcheck⟩

/-- **A signed request is accepted, and no other.**  For a strategy whose secret there is, the
outcome is the principal exactly when the request carries the signature of its payload under the
secret that counts; otherwise it is the refusal of a client whose identity is not established. -/
theorem authenticate_hmac_iff {trust : Trust} {secret : Option Text} {webhook : Bool}
    (h : trust.require (.hmac secret webhook) = .ok ()) (r : Request) (now : Instant) :
    ∃ s, IsEffective trust secret s
      ∧ ((authenticate trust (.hmac secret webhook) r now).outcome = .ok { kind := .hmac }
        ↔ Carries s r webhook)
      ∧ (¬ Carries s r webhook →
        ∃ message data, (authenticate trust (.hmac secret webhook) r now).outcome
          = .error (.web message "unauthorized" 401 (.ok data) .null none)) := by
  cases hs : trust.effectiveSecret secret with
  | none =>
    rw [Trust.require, hs, if_pos Option.isNone_none] at h
    cases h
  | some s =>
    refine ⟨s, (effectiveSecret_eq_some_iff trust secret s).mp hs, ?_, ?_⟩
    · rcases outcome_authenticate_hmac hs webhook r now with ⟨hc, hok⟩ | ⟨hc, _, _, herror⟩
      · exact iff_of_true hok hc
      · refine iff_of_false ?_ hc
        intro hok
        cases hok.symm.trans herror
    · intro hno
      rcases outcome_authenticate_hmac hs webhook r now with ⟨hc, -⟩ | ⟨-, herror⟩
      · exact absurd hc hno
      · exact herror

/-- A trust with a shared secret and nothing else. -/
def sharedSecretTrust : Trust where
  tokens := ⟨none, fun _ => none, []⟩
  signatureSecret := some "shared"
  static := none
  verification := none
  transport := ⟨none, none, none, [], false⟩

/-- A webhook whose body is signed under that secret, in capitals. -/
def signedWebhook : Request where
  method := "POST"
  path := "/hook"
  query := []
  headers := [("x-hub-signature", "sha1=331D3D3BC83CF8DB1E66CBA84B9487BB27844195")]
  body := Bytes.ofAscii "zen"
  tls := .null
  client := none
  identity := .absent

theorem authenticate_signedWebhook :
    sharedSecretTrust.require (.hmac none true) = .ok ()
      ∧ (authenticate sharedSecretTrust (.hmac none true) signedWebhook 0).outcome
        = .ok { kind := .hmac } := by
  have hrequire : sharedSecretTrust.require (.hmac none true) = .ok () := rfl
  obtain ⟨s, ⟨-, hs⟩, haccepts, -⟩ := authenticate_hmac_iff hrequire signedWebhook 0
  have hshared : s = "shared" := by
    rcases hs with hown | ⟨-, hshared⟩
    · cases hown
    · exact (Option.some.inj hshared).symm
  subst hshared
  have hoctets : Text.utf8? "shared" = some (Bytes.ofAscii "shared") := by decide
  have hheader : signedWebhook.header? "x-hub-signature"
      = some (("sha1=" : Text) ++ "331D3D3BC83CF8DB1E66CBA84B9487BB27844195") := by decide
  have hdigits : Text.asciiLower "331D3D3BC83CF8DB1E66CBA84B9487BB27844195"
      = Bytes.hex (Hash.sha1.hmac (Bytes.ofAscii "shared") signedWebhook.body) := by
    decide +kernel
  exact ⟨hrequire, haccepts.mpr (.webhook hoctets hheader hdigits)⟩

end Portcullis.Authentication
