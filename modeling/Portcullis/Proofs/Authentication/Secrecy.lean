/-
# What a refusal tells of a secret

Two strategies hold what a request presents against a secret: the static token and the signature of
the payload.  The secret decides whether they refuse; what a refusal says, and what is reported on
the way to it, is made of the request alone (`staticRefusal`, `hmacRefusal`).  Of the presented text
itself the reports show its first four code points.

**Main statement.**  `authenticate_reveals_nothing`.
-/
import Portcullis.Proofs.Authentication.Failures
import Portcullis.Proofs.Authentication.Hmac

namespace Portcullis

/-! ## 1. Masked texts -/

/-- Long texts that begin alike are masked alike. -/
theorem Redaction.ofText_congr {a b : Text} (ha : 8 < a.length) (hb : 8 < b.length)
    (h : a.take 4 = b.take 4) : ofText a = ofText b := by
  rw [ofText, ofText, if_neg (Nat.not_le.mpr ha), if_neg (Nat.not_le.mpr hb), h]

/-- A text under a secret name goes into a report in its masked form. -/
theorem Json.scrubMembers_secret {name : Text}
    (hname : Redaction.secretNames.contains name.lower = true) (t : Text) (rest : Members) :
    scrubMembers ((name, .text t) :: rest)
      = (name, .text (Redaction.ofText t)) :: scrubMembers rest := by
  rw [scrubMembers, if_pos hname, redact]

/-- What stands under another name goes into it as data. -/
theorem Json.scrubMembers_open {name : Text}
    (hname : ¬ Redaction.secretNames.contains name.lower = true) (v : Json) (rest : Members) :
    scrubMembers ((name, v) :: rest) = (name, v.scrub) :: scrubMembers rest := by
  rw [scrubMembers, if_neg hname]

namespace Authentication

/-! ## 2. Refusals under a secret -/

/-- The attempt ends in a refusal. -/
def Refuses {α : Type} (x : Attempt α) : Prop :=
  ∃ fault, x.outcome = .error fault ∧ fault.isWeb = true

instance {α : Type} (x : Attempt α) : Decidable (Refuses x) :=
  match h : x.outcome with
  | .ok _ => isFalse fun ⟨_, hfault, _⟩ => nomatch h.symm.trans hfault
  | .error fault =>
    decidable_of_iff (fault.isWeb = true)
      ⟨fun hweb => ⟨fault, h, hweb⟩, fun ⟨_, hfault, hweb⟩ =>
        Except.error.inj (h.symm.trans hfault) ▸ hweb⟩

/-- Where two attempts begin with the same step and the first ends in a refusal, they are the same
if the rest is, for every rest that ends in one. -/
theorem bind_congr_of_refuses {α β : Type} {x : Attempt α} {f g : α → Attempt β}
    (h : Refuses (x >>= f)) (hrest : ∀ a, Refuses (f a) → f a = g a) : x >>= f = x >>= g := by
  obtain ⟨events, outcome⟩ := x
  cases outcome with
  | error fault => rfl
  | ok a =>
    have hsame : f a = g a := hrest a h
    change (⟨events ++ (f a).events, (f a).outcome⟩ : Attempt β)
      = ⟨events ++ (g a).events, (g a).outcome⟩
    rw [hsame]

/-- The refusal of a request by a static token, whichever that is. -/
def staticRefusal (r : Request) : Attempt Principal := do
  let token ← bearerOrRefuse r
  note "Performing static authentication" [("token", .text token)]
  .fail (.unauthorized "Invalid token supplied" [("credentials", .text token)])

/-- The refusal of a request for its signature, whichever the secret is. -/
def hmacRefusal (webhook : Bool) (r : Request) : Attempt Principal :=
  match presented webhook r with
  | (_, .text (c :: t)) => do
    note "Performing HMAC authentication"
      [("mode", .text (Signature.modeName (modeOf webhook))), ("signature", .text (c :: t))]
    .fail (.unauthorized "Signature does not match hmac of payload" [("signature", .text (c :: t))])
  | _ => .fail (.unauthorized "No signature was provided" [])

theorem static_of_refuses {trust : Trust} {r : Request} (h : Refuses (static trust r)) :
    static trust r = staticRefusal r := by
  unfold static at h ⊢
  cases hsecret : trust.static with
  | none =>
    rw [hsecret] at h
    obtain ⟨fault, hfault, hweb⟩ := h
    obtain rfl := Except.error.inj hfault
    cases hweb
  | some secret =>
    rw [hsecret] at h
    refine bind_congr_of_refuses h fun token h => bind_congr_of_refuses h fun _ h => ?_
    obtain ⟨fault, hfault, hweb⟩ := h
    cases hcheck : secret.check token with
    | ok valid =>
      rw [hcheck] at hfault
      cases valid with
      | true => cases hfault
      | false => rfl
    | error other =>
      -- What cannot be compared with the secret is not refused.
      rw [hcheck] at hfault
      obtain rfl := Except.error.inj hfault
      cases secret.failsOnly_check token other hcheck
      cases hweb

theorem hmac_of_refuses {trust : Trust} {secret : Option Text} {webhook : Bool} {r : Request}
    (h : Refuses (hmac trust secret webhook r)) :
    hmac trust secret webhook r = hmacRefusal webhook r := by
  unfold hmac at h ⊢
  unfold hmacRefusal
  cases hsecret : trust.effectiveSecret secret with
  | none =>
    rw [hsecret] at h
    obtain ⟨fault, hfault, hweb⟩ := h
    obtain rfl := Except.error.inj hfault
    cases hweb
  | some s =>
    rw [hsecret] at h
    generalize presented webhook r = shown at h ⊢
    obtain ⟨payload, value⟩ := shown
    cases value with
    | text t =>
      cases t with
      | nil => rfl
      | cons c t =>
        refine bind_congr_of_refuses h fun _ h => ?_
        obtain ⟨fault, hfault, hweb⟩ := h
        by_cases hverify : Signature.verify (modeOf webhook) s payload (.text (c :: t)) = true
        · rw [modeOf] at hverify
          rw [if_pos hverify] at hfault
          cases hfault
        · rw [modeOf] at hverify
          rw [if_neg hverify]
    | _ => rfl

/-! ## 3. Strategies with a secret -/

/-- Two strategies that hold a request against a secret, perhaps not the same one, in one way. -/
inductive SameCheck : Strategy → Strategy → Prop
  | static : SameCheck .static .static
  | hmac (secret secret' : Option Text) (webhook : Bool) :
      SameCheck (.hmac secret webhook) (.hmac secret' webhook)

/-- The text that a request presents to a strategy with a secret: the bearer token, the signature in
the header, or the one in the payload. -/
inductive PresentsText : Strategy → Request → Text → Prop
  | bearer {r : Request} {t : Text} (h : r.bearerToken? = some t) : PresentsText .static r t
  | header {secret : Option Text} {r : Request} {t : Text}
      (h : r.header? "x-hub-signature" = some t) : PresentsText (.hmac secret true) r t
  | entry {secret : Option Text} {r : Request} {ms : Members} {t : Text}
      (payload : signedPayload r = .object ms)
      (h : Members.get? "signature" ms = some (.text t)) : PresentsText (.hmac secret false) r t

/-- The refusal of a request by a strategy with a secret. -/
def refusalOf : Strategy → Request → Attempt Principal
  | .static, r => staticRefusal r
  | .hmac _ webhook, r => hmacRefusal webhook r
  | _, _ => .ok .anonymous

/-- A strategy with a secret refuses a request in one way. -/
theorem check_of_refuses {strategy strategy' : Strategy} (hsame : SameCheck strategy strategy')
    {trust : Trust} {r : Request} {now : Instant} (h : Refuses (check trust strategy r now)) :
    check trust strategy r now = refusalOf strategy r := by
  cases hsame with
  | static => exact static_of_refuses h
  | hmac secret secret' webhook => exact hmac_of_refuses h

section SameCheck

variable {strategy strategy' : Strategy} (hsame : SameCheck strategy strategy')
include hsame

theorem SameCheck.symm : SameCheck strategy' strategy := by
  cases hsame with
  | static => exact .static
  | hmac secret secret' webhook => exact .hmac secret' secret webhook

theorem SameCheck.kind_eq : strategy.kind = strategy'.kind := by
  cases hsame <;> rfl

theorem SameCheck.refusalOf_eq : refusalOf strategy = refusalOf strategy' := by
  cases hsame <;> rfl

end SameCheck

/-! ## 4. What is reported -/

/-- The report of a refusal whose data is one text, in its masked form. -/
def maskedRefusal (kind : AuthKind) (message name masked : Text) : Event :=
  ⟨.debug, logger, "Authentication failed",
    [("strategy", .text kind.name), ("error_code", .text "unauthorized"),
      ("reason", .text message), ("data", .object [(name, .text masked)])], none⟩

/-- The reports of a text that is presented to a strategy with a secret and refused: they are made
of its masked form. -/
def maskedReports : Strategy → Text → List Event
  | .static, masked => [
      ⟨.debug, logger, "Performing static authentication", [("token", .text masked)], none⟩,
      maskedRefusal .static "Invalid token supplied" "credentials" masked]
  | .hmac _ webhook, masked => [
      ⟨.debug, logger, "Performing HMAC authentication",
        [("mode", .text (Signature.modeName (modeOf webhook))), ("signature", .text masked)], none⟩,
      maskedRefusal .hmac "Signature does not match hmac of payload" "signature" masked]
  | _, _ => []

theorem SameCheck.maskedReports_eq {strategy strategy' : Strategy}
    (hsame : SameCheck strategy strategy') :
    maskedReports strategy = maskedReports strategy' := by
  cases hsame <;> rfl

theorem reportRefusal_text (kind : AuthKind) (message : Text) {name : Text}
    (hname : Redaction.secretNames.contains name.lower = true) (t : Text) :
    reportRefusal kind message "unauthorized" (.object [(name, .text t)])
      = maskedRefusal kind message name (Redaction.ofText t) := by
  rw [reportRefusal, Report.debug, Json.scrubMembers_open (by decide),
    Json.scrubMembers_open (by decide), Json.scrubMembers_open (by decide),
    Json.scrubMembers_open (by decide), Json.scrub, Json.scrubMembers_secret hname]
  rfl

/-- What is presented to a strategy with a secret. -/
theorem presented_of_presentsText {secret : Option Text} {webhook : Bool} {r : Request} {t : Text}
    (h : PresentsText (.hmac secret webhook) r t) : (presented webhook r).2 = .text t := by
  cases h with
  | header h => exact congrArg Json.ofText? h
  | entry payload h =>
    rw [presented_standard payload]
    exact congrArg (Option.getD · Json.null) h

/-- **The reports of a refused text** are made of its masked form. -/
theorem events_of_presentsText {strategy strategy' : Strategy}
    (hsame : SameCheck strategy strategy') {trust : Trust} {r : Request} {now : Instant} {t : Text}
    (ht : PresentsText strategy r t) (hne : t ≠ []) (h : Refuses (check trust strategy r now)) :
    (authenticate trust strategy r now).events
      = maskedReports strategy (Redaction.ofText t) := by
  have hcheck := check_of_refuses hsame h
  rw [authenticate, hcheck]
  cases hsame with
  | static =>
    cases ht with
    | bearer hbearer =>
      rw [refusalOf, staticRefusal, bearerOrRefuse, hbearer, maskedReports,
        ← reportRefusal_text _ _ (by decide)]
      change [Report.debug _ _ _, _] = _
      rw [Report.debug, Json.scrubMembers_secret (by decide)]
      rfl
  | hmac secret secret' webhook =>
    have hpresented := presented_of_presentsText ht
    rw [refusalOf, hmacRefusal, maskedReports, ← reportRefusal_text _ _ (by decide)]
    generalize presented webhook r = shown at hpresented ⊢
    obtain ⟨payload, value⟩ := shown
    obtain rfl : value = .text t := hpresented
    cases t with
    | nil => exact absurd rfl hne
    | cons c t =>
      change [Report.debug _ _ _, _] = _
      rw [Report.debug, Json.scrubMembers_open (by decide), Json.scrubMembers_secret (by decide)]
      rfl

/-! ## 5. Two runs -/

theorem refuses_check {trust : Trust} {strategy : Strategy} {r : Request} {now : Instant}
    (h : Refuses (authenticate trust strategy r now)) : Refuses (check trust strategy r now) := by
  obtain ⟨fault, hfault, hweb⟩ := h
  rw [outcome_authenticate] at hfault
  obtain ⟨raised, hraised, rfl⟩ := mapError_eq_error_iff.mp hfault
  exact ⟨raised, hraised, Fault.isWeb_of_afterReport hweb⟩

/-- **A refusal reveals nothing of the secret.**  Where two strategies hold a request against their
secrets in one way, under any two trusts, and both refuse it, the refusals and all reports are the
same.  Where each refuses a text that a request presents to it, both are long and begin alike, the
reports are the same. -/
theorem authenticate_reveals_nothing {strategy strategy' : Strategy}
    (hsame : SameCheck strategy strategy') {trust trust' : Trust} {r r' : Request}
    {now now' : Instant} (h : Refuses (authenticate trust strategy r now))
    (h' : Refuses (authenticate trust' strategy' r' now')) :
    (r = r' → authenticate trust strategy r now = authenticate trust' strategy' r' now')
      ∧ ∀ a b, PresentsText strategy r a → PresentsText strategy' r' b → 8 < a.length →
        8 < b.length → a.take 4 = b.take 4 →
        (authenticate trust strategy r now).events
          = (authenticate trust' strategy' r' now').events := by
  constructor
  · rintro rfl
    have hcheck : check trust strategy r now = check trust' strategy' r now' := by
      rw [check_of_refuses hsame (refuses_check h), check_of_refuses hsame.symm (refuses_check h'),
        hsame.refusalOf_eq]
    rw [authenticate, authenticate, hcheck, hsame.kind_eq]
  · intro a b ha hb hlonga hlongb hbegin
    have hfilled : ∀ {t : Text}, 8 < t.length → t ≠ [] := by
      rintro t hlong rfl
      exact absurd hlong (by decide)
    rw [events_of_presentsText hsame ha (hfilled hlonga) (refuses_check h),
      events_of_presentsText hsame.symm hb (hfilled hlongb) (refuses_check h'),
      Redaction.ofText_congr hlonga hlongb hbegin, hsame.maskedReports_eq]

/-- A webhook with a signature that nobody made. -/
def forgedWebhook (signature : Text) : Request :=
  { signedWebhook with headers := [("x-hub-signature", signature)] }

/-- Another shared secret. -/
def otherSecretTrust : Trust := { sharedSecretTrust with signatureSecret := some "another" }

theorem authenticate_forgedWebhook :
    authenticate sharedSecretTrust (.hmac none true) (forgedWebhook "sha1=00000") 0
        = authenticate otherSecretTrust (.hmac none true) (forgedWebhook "sha1=00000") 0
      ∧ (authenticate sharedSecretTrust (.hmac none true) (forgedWebhook "sha1=00000") 0).events
        = (authenticate otherSecretTrust (.hmac none true) (forgedWebhook "sha1=11111") 0).events
        := by
  have hsame : SameCheck (.hmac none true) (.hmac none true) := .hmac none none true
  have hzeros : Refuses
      (authenticate sharedSecretTrust (.hmac none true) (forgedWebhook "sha1=00000") 0) := by
    decide +kernel
  have hother : Refuses
      (authenticate otherSecretTrust (.hmac none true) (forgedWebhook "sha1=00000") 0) := by
    decide +kernel
  have hones : Refuses
      (authenticate otherSecretTrust (.hmac none true) (forgedWebhook "sha1=11111") 0) := by
    decide +kernel
  refine ⟨(authenticate_reveals_nothing hsame hzeros hother).1 rfl, ?_⟩
  have hheader : ∀ signature, PresentsText (.hmac none true) (forgedWebhook signature) signature :=
    fun signature => .header rfl
  exact (authenticate_reveals_nothing hsame hzeros hones).2 "sha1=00000" "sha1=11111"
    (hheader _) (hheader _) (by decide) (by decide) (by decide)

end Authentication

end Portcullis
