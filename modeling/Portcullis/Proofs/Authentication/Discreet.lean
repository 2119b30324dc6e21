/-
# What authentication fails with

Whatever authentication fails with is of one of three kinds (`FailsWith`): the material of the
strategy is missing, the one who names the expected subject fails, or the fault is a discreet one.

A discreet fault tells nothing of the service.  If it is a refusal, a client sees a status and a
code of it; there are five such pairs (`publicRefusals`), one status for each code, and no hint.  If
it is none, it comes from below and says nothing about the configuration either.  In both cases it
can be reported.  The check of permissions refuses in the same way.

Whether a strategy has its material is looked at twice: when it is required, once and for all, and
when a request is checked.  The two agree, so that after a strategy has been required only the one
who names the subject can still end a request in a configuration that cannot work.

**Main statements.**  `failsOnly_check`, `authenticate_fails` and `discreet_requirePermissions`.
-/
import Portcullis.Proofs.Authentication.Failures
import Portcullis.Proofs.Authentication.Outcome
import Portcullis.Proofs.Reportable
import Portcullis.Proofs.Verification.Faults

namespace Portcullis

/-! ## 1. Discreet faults -/

/-- The refusals of authentication and of the check of permissions, as clients see them. -/
def publicRefusals : List (Int × Text) := [
  (401, "unauthorized"), (400, "verification_token_missing"), (400, "verification_otp_missing"),
  (403, "verification_failed"), (403, "forbidden")]

namespace Fault

/-- One of those refusals, without a hint, or a fault that is neither a refusal nor a configuration
that cannot work; and a report can be made of it. -/
inductive Discreet : Fault → Prop
  | refusal {message code : Text} {status : Int} {data : Json} {cause : Option Fault}
      (mem : (status, code) ∈ publicRefusals)
      (shown : ∀ c, cause = some c → ∃ t, c.shown = .ok t) :
      Discreet (.web message code status (.ok data) .null cause)
  | below {fault : Fault} (web : fault.isWeb = false) (works : fault.isConfiguration = false)
      (reportable : fault.Reportable) : Discreet fault

theorem Discreet.reportable {fault : Fault} (h : Discreet fault) : fault.Reportable := by
  cases h with
  | refusal _ shown => exact reportable_web shown
  | below _ _ reportable => exact reportable

theorem Discreet.isConfiguration {fault : Fault} (h : Discreet fault) :
    fault.isConfiguration = false := by
  cases h with
  | refusal _ _ => rfl
  | below _ works _ => exact works

/-- Reporting a discreet fault leaves it. -/
theorem Discreet.afterReport {fault : Fault} (h : Discreet fault) : fault.afterReport = fault := by
  cases h with
  | refusal _ _ => rfl
  | below web _ _ => exact afterReport_of_not_web web

/-- A refusal without a cause. -/
theorem discreet_refusal {status : Int} {code : Text} (h : (status, code) ∈ publicRefusals)
    (message : Text) (data : Members) : Discreet (.refusal message code status data) :=
  .refusal h nofun

theorem discreet_unauthorized (message : Text) (data : Members) :
    Discreet (.unauthorized message data) := discreet_refusal (by decide) message data

/-- A refusal with a cause that can be shown. -/
theorem discreet_refusal_from {status : Int} {code : Text} (h : (status, code) ∈ publicRefusals)
    (message : Text) (data : Json) {cause : Fault} {t : Text} (shown : cause.shown = .ok t) :
    Discreet (.web message code status (.ok data) .null (some cause)) := by
  refine .refusal h ?_
  rintro _ ⟨⟩
  exact ⟨t, shown⟩

theorem discreet_plain (kind : Kind) (message : Text) : Discreet (.plain kind message) :=
  .below rfl rfl (reportable_plain kind message)

theorem IsPlain.discreet {fault : Fault} (h : fault.IsPlain) : fault.Discreet := by
  cases h
  exact discreet_plain _ _

theorem OfKey.discreet {fault : Fault} (h : fault.OfKey) : fault.Discreet := by
  cases h with
  | key flaw => exact .below rfl rfl (reportable_of_bare ⟨_, rfl⟩ rfl rfl)
  | plain kind message => exact discreet_plain kind message

theorem FromBelow.discreet {fault : Fault} (h : fault.FromBelow) : fault.Discreet := by
  cases h with
  | token flaw => exact .below rfl rfl (reportable_of_bare ⟨_, rfl⟩ rfl rfl)
  | ofKey h => exact h.discreet

end Fault

open Fault

/-! ## 2. Verification tokens -/

namespace Verification

theorem Disputes.discreet {fault : Fault} (h : Disputes fault) : fault.Discreet := by
  cases h with
  | mismatch message data => exact discreet_refusal (by decide) message data
  | action message data => exact .below rfl rfl (reportable_internal message data)
  | plain kind message => exact discreet_plain kind message

theorem discreet_readToken (config : Verification) (demand : Demand) (token : Text)
    (now : Instant) : FailsOnly Discreet (config.readToken demand token now) := by
  have hread := Token.failsOnly_read algorithm config.secret (config.expectations demand) now token
  unfold readToken
  split
  · exact failsOnly_error (discreet_refusal_from (by decide) _ _ rfl)
  · exact hread.mono fun fault h => h.discreet

theorem discreet_readIdentity (claims : Members) : FailsOnly Discreet (readIdentity claims) := by
  unfold readIdentity
  split
  · exact failsOnly_ok _
  · exact failsOnly_error (discreet_refusal (by decide) _ _)

theorem discreet_verify (config : Verification) (demand : Demand) (token : Text) (now : Instant) :
    FailsOnly Discreet (config.verify demand token now) := by
  unfold verify
  split
  · exact failsOnly_error (discreet_refusal (by decide) _ _)
  refine (discreet_readToken config demand token now).bind fun claims _ => ?_
  refine (discreet_readIdentity claims).bind fun identity _ => ?_
  refine ((failsOnly_checkAction demand identity.1).mono fun _ h => h.discreet).bind fun _ _ => ?_
  refine ((failsOnly_checkSubject demand claims).mono fun _ h => h.discreet).bind fun _ _ => ?_
  exact ((failsOnly_checkCode config demand _).mono fun _ h => h.discreet).bind
    fun _ _ => failsOnly_ok _

end Verification

namespace Authentication

/-! ## 3. One strategy after the other -/

/-- What the check of a strategy fails with. -/
inductive FailsWith (trust : Trust) (r : Request) (strategy : Strategy) : Fault → Prop
  | unconfigured {what : Text} (missing : trust.require strategy ≠ .ok ()) :
      FailsWith trust r strategy (.misconfigured what)
  | resolver {fault : Fault} (lacks : LacksSubject trust r strategy fault) :
      FailsWith trust r strategy fault
  | discreet {fault : Fault} (h : fault.Discreet) : FailsWith trust r strategy fault

section Strategies

variable (trust : Trust) (r : Request) (now : Instant)

theorem discreet_bearerOrRefuse : FailsOnly Discreet (bearerOrRefuse r).outcome := by
  unfold bearerOrRefuse
  split
  · exact failsOnly_ok _
  · exact failsOnly_error (discreet_unauthorized _ _)

theorem failsOnly_static :
    FailsOnly (FailsWith trust r .static) (static trust r).outcome := by
  cases hstatic : trust.static with
  | none =>
    rw [static, hstatic]
    refine failsOnly_error (.unconfigured fun h => ?_)
    rw [Trust.require, hstatic] at h
    cases h
  | some secret =>
    rw [static, hstatic]
    refine FailsOnly.mono ?_ fun _ => .discreet
    refine Attempt.failsOnly_bind (discreet_bearerOrRefuse r) fun token _ => ?_
    refine Attempt.failsOnly_bind (failsOnly_ok ()) fun _ _ => ?_
    refine Attempt.failsOnly_bind ((secret.failsOnly_check token).mono fun _ h => h.discreet)
      fun valid _ => ?_
    split
    · exact failsOnly_ok _
    · exact failsOnly_error (discreet_unauthorized _ _)

/-- A key that is missing is not asked for again: whatever stage an access token is refused at, its
bearer is unauthorized. -/
theorem discreet_jwt (issuer : Issuer) : FailsOnly Discreet (jwt trust issuer r now).outcome := by
  refine Attempt.failsOnly_bind (discreet_bearerOrRefuse r) fun token _ => ?_
  refine Attempt.failsOnly_bind (failsOnly_ok ()) fun _ _ => ?_
  split
  · exact failsOnly_ok _
  · next fault hfault =>
    refine failsOnly_error ?_
    cases trust.tokens.failsOnly_verify token issuer now fault hfault with
    | access reason message => exact discreet_refusal_from (by decide) _ _ rfl
    | ofKey h =>
      cases h with
      | key flaw => exact (OfKey.key flaw).discreet
      | plain kind message => exact discreet_plain kind message

theorem failsOnly_hmac (secret : Option Text) (webhook : Bool) :
    FailsOnly (FailsWith trust r (.hmac secret webhook)) (hmac trust secret webhook r).outcome := by
  cases hsecret : trust.effectiveSecret secret with
  | none =>
    rw [hmac, hsecret]
    refine failsOnly_error (.unconfigured fun h => ?_)
    rw [Trust.require, hsecret] at h
    cases h
  | some effective =>
    rw [hmac, hsecret]
    refine FailsOnly.mono ?_ fun _ => .discreet
    simp only
    generalize (if webhook = true then SignatureMode.webhook else SignatureMode.standard) = mode
    split
    · refine Attempt.failsOnly_bind (failsOnly_ok ()) fun _ _ => ?_
      split
      · exact failsOnly_ok _
      · exact failsOnly_error (discreet_unauthorized _ _)
    · exact failsOnly_error (discreet_unauthorized _ _)

/-- Whether the transport is encrypted is not asked again: without a peer the request is refused. -/
theorem discreet_tls (whitelist : Option (List Text)) :
    FailsOnly Discreet (tls trust whitelist r).outcome := by
  refine Attempt.failsOnly_bind ((Peer.failsOnly_ofRequest _ r).mono fun _ h => h.discreet)
    fun peer _ => ?_
  split
  · refine Attempt.failsOnly_bind (failsOnly_ok ()) fun _ _ => ?_
    split
    · exact failsOnly_ok _
    · exact failsOnly_error (discreet_unauthorized _ _)
  · exact failsOnly_error (discreet_unauthorized _ _)

/-- A token that was found fails as the one who names the subject does, or discreetly. -/
theorem failsOnly_verificationWith (config : Verification) {rule : VerificationRule} (token : Text)
    {code : Option Text} :
    FailsOnly (fun fault => ((rule.requireCode = true → code.isSome = true)
        ∧ rule.expectedSubject r = .error fault) ∨ fault.Discreet)
      (verificationWith config rule r now token code).outcome := by
  by_cases hpresent : rule.requireCode = true → code.isSome = true
  · rw [verificationWith_of_present config r now token hpresent]
    refine FailsOnly.bind (fun fault h => Or.inl ⟨hpresent, h⟩) fun subject _ => ?_
    refine FailsOnly.mono ?_ fun _ => Or.inr
    exact (config.discreet_verify _ token now).bind fun _ _ => failsOnly_ok _
  · obtain ⟨hrequire, hnone⟩ := Classical.not_imp.mp hpresent
    rw [Bool.not_eq_true, Option.isSome_eq_false_iff] at hnone
    rw [verificationWith, if_pos (Bool.and_eq_true_iff.mpr ⟨hrequire, hnone⟩)]
    exact failsOnly_error (Or.inr (discreet_refusal (by decide) _ _))

theorem failsOnly_verification (rule : VerificationRule) :
    FailsOnly (FailsWith trust r (.verification rule)) (verification trust rule r now).outcome := by
  have hlookup : ∀ rules,
      FailsOnly (FailsWith trust r (.verification rule)) (LookupRule.findFirst rules r) :=
    fun rules => (LookupRule.failsOnly_findFirst rules r).mono fun _ h => .discreet h.discreet
  cases hconfig : trust.verification with
  | none =>
    rw [verification, hconfig]
    refine failsOnly_error (.unconfigured fun h => ?_)
    rw [Trust.require, hconfig] at h
    cases h
  | some config =>
    rw [verification, hconfig]
    refine Attempt.failsOnly_bind (hlookup _) fun found hfound => ?_
    cases found with
    | none => exact failsOnly_error (.discreet (discreet_refusal (by decide) _ _))
    | some token =>
      refine Attempt.failsOnly_bind (hlookup _) fun code hcode => ?_
      refine (failsOnly_verificationWith r now config token).mono fun fault h => ?_
      rcases h with ⟨hpresent, hfails⟩ | hdiscreet
      · exact .resolver (.mk ⟨⟨config, hconfig⟩, ⟨token, hfound⟩, code, hcode, hpresent⟩ hfails)
      · exact .discreet hdiscreet

/-- **What a check fails with.** -/
theorem failsOnly_check (strategy : Strategy) :
    FailsOnly (FailsWith trust r strategy) (check trust strategy r now).outcome := by
  cases strategy with
  | none => exact failsOnly_ok _
  | jwt issuer => exact (discreet_jwt trust r now issuer).mono fun _ => .discreet
  | hmac secret webhook => exact failsOnly_hmac trust r secret webhook
  | static => exact failsOnly_static trust r
  | tls whitelist => exact (discreet_tls trust r whitelist).mono fun _ => .discreet
  | verification rule => exact failsOnly_verification trust r now rule

end Strategies

/-! ## 4. Authentication -/

section Authenticate

variable {trust : Trust} {r : Request} {strategy : Strategy} {now : Instant} {fault : Fault}

/-- **What authentication fails with**: a missing material, the fault of the one who names the
expected subject, or a discreet fault. -/
theorem authenticate_fails
    (h : (authenticate trust strategy r now).outcome = .error fault) :
    (∃ what, fault = .misconfigured what ∧ trust.require strategy ≠ .ok ())
      ∨ ByResolver trust r strategy fault ∨ fault.Discreet := by
  rw [outcome_authenticate] at h
  obtain ⟨raised, hraised, rfl⟩ := mapError_eq_error_iff.mp h
  cases failsOnly_check trust r now strategy raised hraised with
  | unconfigured missing => exact Or.inl ⟨_, rfl, missing⟩
  | resolver lacks => exact Or.inr (Or.inl ⟨raised, lacks, rfl⟩)
  | discreet h => exact Or.inr (Or.inr (h.afterReport.symm ▸ h))

/-- A refusal that does not come from the one who names the expected subject is a public one. -/
theorem discreet_of_isWeb (h : (authenticate trust strategy r now).outcome = .error fault)
    (hweb : fault.isWeb = true) (hown : ¬ ByResolver trust r strategy fault) : fault.Discreet := by
  rcases authenticate_fails h with ⟨what, rfl, -⟩ | hresolver | hdiscreet
  · cases hweb
  · exact absurd hresolver hown
  · exact hdiscreet

/-- A strategy that has been required ends a request in a configuration that cannot work only as the
one does who names the expected subject. -/
theorem byResolver_of_isConfiguration (hrequire : trust.require strategy = .ok ())
    (h : (authenticate trust strategy r now).outcome = .error fault)
    (hconfiguration : fault.isConfiguration = true) : ByResolver trust r strategy fault := by
  rcases authenticate_fails h with ⟨-, -, hmissing⟩ | hresolver | hdiscreet
  · exact absurd hrequire hmissing
  · exact hresolver
  · exact absurd (hdiscreet.isConfiguration.symm.trans hconfiguration) Bool.false_ne_true

/-- Where no one fails to name the expected subject, the outcome is that of the check. -/
theorem outcome_authenticate_of_named (h : ∀ raised, ¬ LacksSubject trust r strategy raised) :
    (authenticate trust strategy r now).outcome = (check trust strategy r now).outcome := by
  rw [outcome_authenticate]
  cases houtcome : (check trust strategy r now).outcome with
  | ok p => rfl
  | error raised =>
    cases failsOnly_check trust r now strategy raised houtcome with
    | unconfigured _ => rfl
    | resolver lacks => exact absurd lacks (h raised)
    | discreet hdiscreet => exact congrArg Except.error hdiscreet.afterReport

end Authenticate

/-! ## 5. Permissions -/

/-- **The check of permissions refuses** in one of the public ways, and does nothing else. -/
theorem discreet_requirePermissions (required : List Text) (p : Principal) :
    FailsOnly (fun fault => fault.isWeb = true ∧ fault.Discreet)
      (requirePermissions required p) := by
  unfold requirePermissions
  split
  · exact failsOnly_ok _
  · exact failsOnly_error ⟨rfl, discreet_refusal (by decide) _ _⟩

end Authentication

end Portcullis
