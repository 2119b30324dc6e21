/-
# Outcomes of authentication

Reports change no principal: authentication yields that of its strategy's check.  They change a
refusal only if its data cannot be looked through, which then ends authentication in the failure of
its report (`Fault.afterReport`).  Of the principals that the checks yield, only that of an accepted
access token has claims.

**Main statements.**  `outcome_authenticate`, `check_ok` and `attach_ok_iff`.
-/
import Portcullis.Authentication
import Portcullis.Proofs.Results

namespace Portcullis

namespace Attempt

/-- What comes after a report has the outcome. -/
theorem outcome_note_bind {α : Type} (message : Text) (data : Members) (x : Unit → Attempt α) :
    (Authentication.note message data >>= x).outcome = (x ()).outcome := rfl

/-- What comes after a result has the outcome. -/
theorem outcome_ok_bind {α β : Type} (a : α) (f : α → Attempt β) :
    (ok a >>= f).outcome = (f a).outcome := rfl

/-- The outcome of two attempts is that of the second for the outcome of the first. -/
theorem outcome_bind {α β : Type} (x : Attempt α) (f : α → Attempt β) :
    (x >>= f).outcome = x.outcome >>= fun a => (f a).outcome := by
  obtain ⟨events, outcome⟩ := x
  cases outcome with
  | error fault => rfl
  | ok a => rfl

/-- What comes out of two attempts comes out of the first and then out of the second. -/
theorem outcome_bind_ok {α β : Type} {x : Attempt α} {f : α → Attempt β} {b : β}
    (h : (x >>= f).outcome = .ok b) : ∃ a, x.outcome = .ok a ∧ (f a).outcome = .ok b := by
  rw [outcome_bind] at h
  exact bind_eq_ok h

/-- Two attempts fail as the first fails, or as the second fails after it. -/
theorem failsOnly_bind {α β : Type} {kind : Fault → Prop} {x : Attempt α} {f : α → Attempt β}
    (hx : FailsOnly kind x.outcome)
    (hf : ∀ a, x.outcome = .ok a → FailsOnly kind (f a).outcome) :
    FailsOnly kind (x >>= f).outcome := by
  rw [outcome_bind]
  exact hx.bind hf

/-- A recovery that yields nothing changes failures, and nothing else. -/
theorem outcome_recover {α : Type} (x : Attempt α) {f : Fault → Attempt α} {g : Fault → Fault}
    (hf : ∀ fault, (f fault).outcome = .error (g fault)) :
    (x.recover f).outcome = x.outcome.mapError g := by
  obtain ⟨events, outcome⟩ := x
  cases outcome with
  | ok a => rfl
  | error fault => exact hf fault

end Attempt

/-- What is left of a fault when authentication has reported it: a refusal whose data cannot be
looked through ends in that. -/
def Fault.afterReport : Fault → Fault
  | .web _ _ _ (.error other) _ _ => other
  | fault => fault

theorem Fault.afterReport_of_not_web {fault : Fault} (h : fault.isWeb = false) :
    fault.afterReport = fault := by
  cases fault with
  | web message code status data hint cause => cases h
  | _ => rfl

/-- A refusal is left only of a refusal. -/
theorem Fault.isWeb_of_afterReport {fault : Fault} (h : fault.afterReport.isWeb = true) :
    fault.isWeb = true := by
  cases hweb : fault.isWeb with
  | true => rfl
  | false =>
    rw [Fault.afterReport_of_not_web hweb] at h
    exact hweb.symm.trans h

namespace Authentication

/-! ## 1. All strategies -/

/-- **The outcome of authentication is that of the check**, but for what reporting it changes. -/
theorem outcome_authenticate (trust : Trust) (strategy : Strategy) (r : Request) (now : Instant) :
    (authenticate trust strategy r now).outcome
      = (check trust strategy r now).outcome.mapError Fault.afterReport := by
  refine Attempt.outcome_recover _ fun fault => ?_
  cases fault with
  | web message code status data hint cause => cases data <;> rfl
  | _ => rfl

/-- Authentication yields what the check yields. -/
theorem authenticate_ok_iff {trust : Trust} {strategy : Strategy} {r : Request} {now : Instant}
    {p : Principal} :
    (authenticate trust strategy r now).outcome = .ok p
      ↔ (check trust strategy r now).outcome = .ok p := by
  rw [outcome_authenticate, mapError_eq_ok_iff]

/-- Authentication ends in what is left of the fault of the check. -/
theorem outcome_authenticate_of_error {trust : Trust} {strategy : Strategy} {r : Request}
    {now : Instant} {fault : Fault} (h : (check trust strategy r now).outcome = .error fault) :
    (authenticate trust strategy r now).outcome = .error fault.afterReport := by
  rw [outcome_authenticate, h]
  rfl

/-! ## 2. The claims of the principals -/

theorem claims_of_static {trust : Trust} {r : Request} {p : Principal}
    (h : (static trust r).outcome = .ok p) : p.claims = [] := by
  rw [static] at h
  split at h
  · cases h
  · obtain ⟨token, -, h⟩ := Attempt.outcome_bind_ok h
    obtain ⟨_, -, h⟩ := Attempt.outcome_bind_ok h
    obtain ⟨valid, -, h⟩ := Attempt.outcome_bind_ok h
    split at h
    · obtain rfl := Except.ok.inj h
      rfl
    · cases h

theorem claims_of_hmac {trust : Trust} {secret : Option Text} {webhook : Bool} {r : Request}
    {p : Principal} (h : (hmac trust secret webhook r).outcome = .ok p) : p.claims = [] := by
  rw [hmac] at h
  split at h
  · cases h
  simp only at h
  generalize (if webhook = true then SignatureMode.webhook else SignatureMode.standard) = mode at h
  split at h
  · obtain ⟨_, -, h⟩ := Attempt.outcome_bind_ok h
    split at h
    · obtain rfl := Except.ok.inj h
      rfl
    · cases h
  · cases h

theorem claims_of_tls {trust : Trust} {whitelist : Option (List Text)} {r : Request}
    {p : Principal} (h : (tls trust whitelist r).outcome = .ok p) : p.claims = [] := by
  obtain ⟨peer, -, h⟩ := Attempt.outcome_bind_ok h
  split at h
  · obtain ⟨_, -, h⟩ := Attempt.outcome_bind_ok h
    split at h
    · obtain rfl := Except.ok.inj h
      rfl
    · cases h
  · cases h

/-- A verification token is accepted only when one is found, and it meets what the endpoint demands
of it. -/
theorem outcome_verification_ok {trust : Trust} {rule : VerificationRule} {r : Request}
    {now : Instant} {p : Principal} (h : (verification trust rule r now).outcome = .ok p) :
    ∃ config token code subject accepted, trust.verification = some config
      ∧ LookupRule.findFirst rule.tokenRules r = .ok (some token)
      ∧ LookupRule.findFirst rule.codeRules r = .ok code
      ∧ rule.expectedSubject r = .ok subject
      ∧ config.verify (demandOf rule code subject) token now = .ok accepted
      ∧ p = principalOfAccepted accepted := by
  rw [verification] at h
  split at h
  · cases h
  next config hconfig =>
  obtain ⟨found, hfound, h⟩ := Attempt.outcome_bind_ok h
  split at h
  · cases h
  next token =>
  obtain ⟨code, hcode, h⟩ := Attempt.outcome_bind_ok h
  rw [verificationWith] at h
  split at h
  · cases h
  obtain ⟨subject, hsubject, h⟩ := Attempt.outcome_bind_ok h
  obtain ⟨accepted, haccepted, h⟩ := Attempt.outcome_bind_ok h
  obtain ⟨_, -, h⟩ := Attempt.outcome_bind_ok h
  exact ⟨config, token, code, subject, accepted, hconfig, hfound, hcode, hsubject, haccepted,
    (Except.ok.inj h).symm⟩

theorem claims_of_verification {trust : Trust} {rule : VerificationRule} {r : Request}
    {now : Instant} {p : Principal} (h : (verification trust rule r now).outcome = .ok p) :
    p.claims = [] := by
  obtain ⟨_, _, _, _, _, -, -, -, -, -, rfl⟩ := outcome_verification_ok h
  rfl

/-- The request brings a bearer token with these claims that is accepted for the issuer. -/
def Brings (trust : Trust) (issuer : Issuer) (r : Request) (now : Instant) (claims : Members) :
    Prop :=
  ∃ token, r.bearerToken? = some token ∧ trust.tokens.verify token issuer now = .ok claims

/-- An access token is accepted exactly when the request brings one, and the principal has its
claims. -/
theorem outcome_jwt_iff {trust : Trust} {issuer : Issuer} {r : Request} {now : Instant}
    {p : Principal} :
    (jwt trust issuer r now).outcome = .ok p
      ↔ ∃ claims, Brings trust issuer r now claims ∧ p = principalOfClaims claims := by
  constructor
  · intro h
    obtain ⟨token, htoken, h⟩ := Attempt.outcome_bind_ok h
    obtain ⟨_, -, h⟩ := Attempt.outcome_bind_ok h
    rw [bearerOrRefuse] at htoken
    split at htoken
    · next found hfound =>
      obtain rfl := Except.ok.inj htoken
      split at h
      · next claims hclaims => exact ⟨claims, ⟨_, hfound, hclaims⟩, (Except.ok.inj h).symm⟩
      · cases h
    · cases htoken
  · rintro ⟨claims, ⟨token, htoken, hclaims⟩, rfl⟩
    have hbearer : bearerOrRefuse r = .ok token := by rw [bearerOrRefuse, htoken]
    rw [jwt, hbearer]
    refine (Attempt.outcome_ok_bind _ _).trans ((Attempt.outcome_note_bind _ _ _).trans ?_)
    rw [hclaims]
    rfl

/-- **A principal with claims** is that of an access token that the request brings. -/
theorem check_ok {trust : Trust} {strategy : Strategy} {r : Request} {now : Instant}
    {p : Principal} (h : (check trust strategy r now).outcome = .ok p) :
    p.claims = [] ∨ ∃ issuer claims, strategy = .jwt issuer ∧ Brings trust issuer r now claims
      ∧ p = principalOfClaims claims := by
  cases strategy with
  | none =>
    obtain rfl := Except.ok.inj h
    exact Or.inl rfl
  | jwt issuer =>
    obtain ⟨claims, hbrings, hp⟩ := outcome_jwt_iff.mp h
    exact Or.inr ⟨issuer, claims, rfl, hbrings, hp⟩
  | hmac secret webhook => exact Or.inl (claims_of_hmac h)
  | static => exact Or.inl (claims_of_static h)
  | tls whitelist => exact Or.inl (claims_of_tls h)
  | verification rule => exact Or.inl (claims_of_verification h)

/-! ## 3. The expected subject -/

/-- The one who names the expected subject is asked: there is material, a token is found, and a code
where one is required. -/
structure AsksSubject (trust : Trust) (rule : VerificationRule) (r : Request) : Prop where
  material : ∃ config, trust.verification = some config
  tokenFound : ∃ token, LookupRule.findFirst rule.tokenRules r = .ok (some token)
  codeFound : ∃ code, LookupRule.findFirst rule.codeRules r = .ok code
    ∧ (rule.requireCode = true → code.isSome = true)

/-- A strategy asks for the expected subject, and the one who is asked fails. -/
inductive LacksSubject (trust : Trust) (r : Request) : Strategy → Fault → Prop
  | mk {rule : VerificationRule} {fault : Fault} (asks : AsksSubject trust rule r)
      (fails : rule.expectedSubject r = .error fault) :
      LacksSubject trust r (.verification rule) fault

/-- The fault is that of the one who names the expected subject, as authentication leaves it. -/
def ByResolver (trust : Trust) (r : Request) (strategy : Strategy) (fault : Fault) : Prop :=
  ∃ raised, LacksSubject trust r strategy raised ∧ raised.afterReport = fault

/-- A token that was found and whose code is not missing is held against the subject that is
expected. -/
theorem verificationWith_of_present (config : Verification) {rule : VerificationRule} (r : Request)
    (now : Instant) (token : Text) {code : Option Text}
    (h : rule.requireCode = true → code.isSome = true) :
    (verificationWith config rule r now token code).outcome = (do
      let subject ← rule.expectedSubject r
      let accepted ← config.verify (demandOf rule code subject) token now
      return principalOfAccepted accepted) := by
  have hpresent : ¬ (rule.requireCode && code.isNone) = true := by
    rw [Bool.and_eq_true, Option.isNone_iff_eq_none]
    rintro ⟨hrequire, rfl⟩
    exact Bool.false_ne_true (h hrequire)
  rw [verificationWith, if_neg hpresent, Attempt.outcome_bind]
  refine congrArg _ (funext fun subject => ?_)
  rw [Attempt.outcome_bind]
  rfl

/-- The check ends in the failure of the one who is asked. -/
theorem LacksSubject.outcome {trust : Trust} {r : Request} {strategy : Strategy} {fault : Fault}
    (h : LacksSubject trust r strategy fault) (now : Instant) :
    (check trust strategy r now).outcome = .error fault := by
  cases h with
  | mk asks fails =>
    obtain ⟨⟨config, hconfig⟩, ⟨token, htoken⟩, code, hcode, hpresent⟩ := asks
    rw [check, verification, hconfig]
    simp only [Attempt.outcome_bind, Attempt.ofExcept, htoken, ok_bind, hcode,
      verificationWith_of_present _ _ _ _ hpresent, fails]
    rfl

/-- So does authentication, but for what reporting changes. -/
theorem ByResolver.outcome {trust : Trust} {r : Request} {strategy : Strategy} {fault : Fault}
    (h : ByResolver trust r strategy fault) (now : Instant) :
    (authenticate trust strategy r now).outcome = .error fault := by
  obtain ⟨raised, hlacks, rfl⟩ := h
  exact outcome_authenticate_of_error (hlacks.outcome now)

/-! ## 4. At an endpoint -/

/-- **A caller is attached** if authenticated, and as anonymous if the endpoint lets refused callers
go on, authentication ends in a refusal, and that can be reported. -/
theorem attach_ok_iff {trust : Trust} {strategy : Strategy} {acceptInvalid : Bool} {r : Request}
    {now : Instant} {p : Principal} :
    (attach trust strategy acceptInvalid r now).outcome = .ok p
      ↔ (authenticate trust strategy r now).outcome = .ok p
        ∨ acceptInvalid = true ∧ p = .anonymous ∧ ∃ fault event,
          (authenticate trust strategy r now).outcome = .error fault ∧ fault.isWeb = true
            ∧ Report.fault fault (some r) = .ok event := by
  rw [attach, Attempt.recover]
  cases houtcome : (authenticate trust strategy r now).outcome with
  | ok q => simp [houtcome]
  | error fault =>
    simp only
    split
    · next hgoesOn =>
      obtain ⟨haccepts, hweb⟩ := Bool.and_eq_true_iff.mp hgoesOn
      constructor
      · intro h
        obtain ⟨event, hevent, h⟩ := Attempt.outcome_bind_ok h
        obtain ⟨_, -, h⟩ := Attempt.outcome_bind_ok h
        exact Or.inr ⟨haccepts, (Except.ok.inj h).symm, fault, event, rfl, hweb, hevent⟩
      · rintro (hok | ⟨-, rfl, failed, event, hfailed, -, hevent⟩)
        · cases hok
        · obtain rfl := Except.error.inj hfailed
          have hreport : Attempt.ofExcept (Report.fault fault (some r)) = .ok event := by
            rw [hevent]
            rfl
          rw [hreport]
          rfl
    · next hgoesOn =>
      refine iff_of_false ?_ ?_
      · intro h
        cases h
      · rintro (hok | ⟨haccepts, -, failed, -, hfailed, hweb, -⟩)
        · cases hok
        · obtain rfl := Except.error.inj hfailed
          exact hgoesOn (Bool.and_eq_true_iff.mpr ⟨haccepts, hweb⟩)

/-- A caller who is attached was authenticated or is anonymous. -/
theorem attach_ok {trust : Trust} {strategy : Strategy} {acceptInvalid : Bool} {r : Request}
    {now : Instant} {p : Principal}
    (h : (attach trust strategy acceptInvalid r now).outcome = .ok p) :
    (authenticate trust strategy r now).outcome = .ok p ∨ p = .anonymous :=
  (attach_ok_iff.mp h).imp_right fun hanonymous => hanonymous.2.1

/-- Who is authenticated is attached. -/
theorem outcome_attach_of_ok {trust : Trust} {strategy : Strategy} (acceptInvalid : Bool)
    {r : Request} {now : Instant} {p : Principal}
    (h : (authenticate trust strategy r now).outcome = .ok p) :
    (attach trust strategy acceptInvalid r now).outcome = .ok p :=
  attach_ok_iff.mpr (Or.inl h)

/-- A principal that is permitted is gone on with. -/
theorem requirePermissions_ok {required : List Text} {p q : Principal}
    (h : requirePermissions required p = .ok q) : q = p := by
  rw [requirePermissions] at h
  split at h
  · exact (Except.ok.inj h).symm
  · cases h

end Authentication

end Portcullis
