/-
# What authentication by a verification token ends in

Whoever is not let through is to be refused.  As long as the one who names the expected subject does
not fail, there are four ways to another fault (`Escapes`): the token or the code is to stand in a
header whose name no header can have, the token cannot be checked, and the code cannot be held
against the digest in the token.

The client has the last two in hand.  A token or a code that comes in the body can hold a lone
surrogate, and such a text has no octets that could be checked.

**Main statement.**  `escapes_iff`.
-/
import Portcullis.Proofs.Authentication.Discreet
import Portcullis.Proofs.Authentication.Verification
import Portcullis.Proofs.Verification.Raised

namespace Portcullis.Authentication

open Verification

/-! ## 1. Lookups -/

/-- A name that a header can have, in small letters. -/
def Sendable (name : Text) : Prop := ∀ c ∈ name.lower, c.val < 0x100

theorem all_sendable_iff (name : Text) :
    (name.lower.all fun c => c.val < 0x100) = true ↔ Sendable name := by
  simp [Sendable]

/-- A rule that looks at no header raises nothing. -/
theorem not_raises_find {rule : LookupRule} (h : rule.source ≠ .header) (r : Request)
    (fault : Fault) : ¬ Raises (rule.find r) fault := by
  rw [LookupRule.find, LookupRule.findWith]
  cases hsource : rule.source with
  | header => exact absurd hsource h
  | body => exact not_raises_ok _
  | query => exact not_raises_ok _

/-- Rules of which each raises nothing raise nothing. -/
theorem not_raises_findFirst {rules : List LookupRule} {r : Request} {fault : Fault}
    (h : ∀ rule ∈ rules, ¬ Raises (rule.find r) fault) :
    ¬ Raises (LookupRule.findFirst rules r) fault := by
  induction rules with
  | nil => exact not_raises_ok _
  | cons rule rest ih =>
    obtain ⟨hrule, hrest⟩ := List.forall_mem_cons.mp h
    rw [LookupRule.findFirst_cons, raises_bind_iff]
    rintro (hraises | ⟨found, -, hraises⟩)
    · exact hrule hraises
    · cases found with
      | none => exact ih hrest hraises
      | some t => exact not_raises_ok _ hraises

/-- A lookup raises a fault for a name that no header can have, and no other. -/
theorem raises_everywhere_iff (header field : Text) (r : Request) (fault : Fault) :
    Raises (LookupRule.findFirst (LookupRule.everywhere header field) r) fault
      ↔ ¬ Sendable header ∧ fault = .ofKind .encoding := by
  have hothers : ¬ Raises (LookupRule.findFirst [⟨.body, field⟩, ⟨.query, field⟩] r) fault := by
    refine not_raises_findFirst fun rule hrule => not_raises_find ?_ r fault
    rcases List.mem_pair.mp hrule with rfl | rfl
    · rintro ⟨⟩
    · rintro ⟨⟩
  have hheader : Raises (LookupRule.find ⟨.header, header⟩ r) fault
      ↔ ¬ Sendable header ∧ fault = .ofKind .encoding := by
    rw [LookupRule.find, LookupRule.findWith, ← all_sendable_iff]
    by_cases hall : (header.lower.all fun c => c.val < 0x100) = true
    · simp only [if_pos hall]
      exact iff_of_false (not_raises_ok _) fun h => h.1 hall
    · simp only [if_neg hall]
      constructor
      · rintro ⟨h, -⟩
        exact ⟨hall, (Except.error.inj h).symm⟩
      · rintro ⟨-, rfl⟩
        exact ⟨rfl, rfl⟩
  rw [LookupRule.everywhere, LookupRule.findFirst_cons, raises_bind_iff, hheader,
    or_iff_left_iff_imp]
  rintro ⟨found, -, hraises⟩
  cases found with
  | none => exact absurd hraises hothers
  | some t => exact absurd hraises (not_raises_ok _)

/-! ## 2. Authentication -/

/-- A token is found in a request, and a code if the endpoint requires one. -/
structure Finds (rule : VerificationRule) (r : Request) (token : Text) (code : Option Text) :
    Prop where
  tokenFound : LookupRule.findFirst rule.tokenRules r = .ok (some token)
  codeFound : LookupRule.findFirst rule.codeRules r = .ok code
  present : rule.requireCode = true → ∃ c, code = some c ∧ c ≠ []

/-- How authentication ends in a fault that is no refusal. -/
inductive Escapes (config : Verification) (rule : VerificationRule) (r : Request) (now : Instant) :
    Fault → Prop
  /-- No header can have the name of the one for the token. -/
  | tokenHeader (h : ¬ Sendable rule.tokenHeader) : Escapes config rule r now (.ofKind .encoding)
  /-- No header can have the name of the one for the code. -/
  | codeHeader {token : Text} (found : LookupRule.findFirst rule.tokenRules r = .ok (some token))
      (h : ¬ Sendable rule.codeHeader) : Escapes config rule r now (.ofKind .encoding)
  /-- The token cannot be checked. -/
  | token {token : Text} {code : Option Text} {fault : Fault} (finds : Finds rule r token code)
      (h : Unreadable config token fault) : Escapes config rule r now fault
  /-- The token passes every other check, and the code cannot be held against its digest. -/
  | code {token : Text} {code : Option Text} {subject : Json} {claims : Members} {fault : Fault}
      (finds : Finds rule r token code) (expected : rule.expectedSubject r = .ok subject)
      (decoded : config.decoded (demandOf rule code subject) token now = .ok claims)
      (others : ∀ check, check ≠ .code → Asks config (demandOf rule code subject) claims check)
      (h : Incomparable config (demandOf rule code subject) claims fault) :
      Escapes config rule r now fault

section Raises

variable {config : Verification} {rule : VerificationRule} {r : Request} {now : Instant}
  {subject : Json} {fault : Fault}

/-- A code that is found is presented where one is required. -/
theorem passes_codePresent_demandOf (code : Option Text) (token : Text) :
    Passes config (demandOf rule code subject) token now .codePresent
      ↔ (rule.requireCode = true → ∃ c, code = some c ∧ c ≠ []) := by
  refine forall_congr' fun hrequire => ?_
  have hcode : (demandOf rule code subject).code = code := if_pos hrequire
  simp only [Verification.Presents, hcode]

/-- A token that is found raises what verifying it raises. -/
theorem raises_verificationWith_iff (hsubject : rule.expectedSubject r = .ok subject)
    (token : Text) (code : Option Text) :
    Raises (verificationWith config rule r now token code).outcome fault
      ↔ Raises (config.verify (demandOf rule code subject) token now) fault := by
  by_cases hmissing : (rule.requireCode && code.isNone) = true
  · obtain ⟨hrequire, hnone⟩ := Bool.and_eq_true_iff.mp hmissing
    obtain rfl := Option.isNone_iff_eq_none.mp hnone
    have hverify : config.verify (demandOf rule none subject) token now = .error codeMissing := by
      simp [verify, demandOf, hrequire, givenCode, orElse]
    rw [verificationWith, if_pos hmissing, hverify]
    exact iff_of_false (not_raises_of_isWeb rfl) (not_raises_of_isWeb rfl)
  · have hpresent : rule.requireCode = true → code.isSome = true := by
      intro hrequire
      rw [Bool.and_eq_true, not_and, Bool.not_eq_true, Option.isNone_eq_false_iff] at hmissing
      exact hmissing hrequire
    rw [verificationWith_of_present config r now token hpresent, hsubject, ok_bind, raises_bind_iff]
    refine or_iff_left ?_
    rintro ⟨accepted, -, h⟩
    exact not_raises_ok _ h

/-- A check raises what the search for the token raises, or then that for the code, or then the
verification of what is found. -/
theorem raises_search_iff {trust : Trust} (hconfig : trust.verification = some config)
    (hsubject : rule.expectedSubject r = .ok subject) :
    Raises (verification trust rule r now).outcome fault
      ↔ Raises (LookupRule.findFirst rule.tokenRules r) fault
        ∨ ∃ token, LookupRule.findFirst rule.tokenRules r = .ok (some token)
          ∧ (Raises (LookupRule.findFirst rule.codeRules r) fault
            ∨ ∃ code, LookupRule.findFirst rule.codeRules r = .ok code
              ∧ Raises (config.verify (demandOf rule code subject) token now) fault) := by
  rw [verification, hconfig]
  simp only [Attempt.outcome_bind]
  rw [raises_bind_iff]
  refine or_congr Iff.rfl ⟨?_, ?_⟩
  · rintro ⟨found, hfound, h⟩
    cases found with
    | none => exact absurd h (not_raises_of_isWeb rfl)
    | some token =>
      simp only [Attempt.outcome_bind] at h
      rw [raises_bind_iff] at h
      refine ⟨token, hfound, h.imp_right ?_⟩
      rintro ⟨code, hcode, h⟩
      exact ⟨code, hcode, (raises_verificationWith_iff hsubject token code).mp h⟩
  · rintro ⟨token, hfound, h⟩
    refine ⟨some token, hfound, ?_⟩
    simp only [Attempt.outcome_bind]
    rw [raises_bind_iff]
    refine h.imp_right ?_
    rintro ⟨code, hcode, h⟩
    exact ⟨code, hcode, (raises_verificationWith_iff hsubject token code).mpr h⟩

/-- What the check of a verification token raises is one of the four. -/
theorem raises_verification_iff {trust : Trust} (hconfig : trust.verification = some config)
    (haction : rule.action.isBlank = false) (hsubject : rule.expectedSubject r = .ok subject) :
    Raises (verification trust rule r now).outcome fault ↔ Escapes config rule r now fault := by
  have hdemand : ∀ code, (demandOf rule code subject).action = .null
      ∨ ∃ t, (demandOf rule code subject).action = .text t ∧ t.isBlank = false :=
    fun code => Or.inr ⟨rule.action, rfl, haction⟩
  rw [raises_search_iff hconfig hsubject, VerificationRule.tokenRules, VerificationRule.codeRules,
    raises_everywhere_iff, raises_everywhere_iff]
  constructor
  · rintro (⟨hname, rfl⟩ | ⟨token, hfound, ⟨hname, rfl⟩ | ⟨code, hcode, h⟩⟩)
    · exact .tokenHeader hname
    · exact .codeHeader hfound hname
    · obtain ⟨hpresent, h⟩ := (raises_verify_iff (hdemand code)).mp h
      have hfinds : Finds rule r token code :=
        ⟨hfound, hcode, (passes_codePresent_demandOf code token).mp hpresent⟩
      rcases h with hunreadable | ⟨claims, hdecoded, hothers, hincomparable⟩
      · exact .token hfinds hunreadable
      · exact .code hfinds hsubject hdecoded hothers hincomparable
  · intro h
    cases h with
    | tokenHeader hname => exact Or.inl ⟨hname, rfl⟩
    | codeHeader hfound hname => exact Or.inr ⟨_, hfound, Or.inl ⟨hname, rfl⟩⟩
    | @token token code _ finds hunreadable =>
      refine Or.inr ⟨token, finds.tokenFound, Or.inr ⟨code, finds.codeFound, ?_⟩⟩
      exact (raises_verify_iff (hdemand code)).mpr
        ⟨(passes_codePresent_demandOf code token).mpr finds.present, Or.inl hunreadable⟩
    | @code token code other claims _ finds hother hdecoded hothers hincomparable =>
      obtain rfl := Except.ok.inj (hsubject.symm.trans hother)
      refine Or.inr ⟨token, finds.tokenFound, Or.inr ⟨code, finds.codeFound, ?_⟩⟩
      exact (raises_verify_iff (hdemand code)).mpr
        ⟨(passes_codePresent_demandOf code token).mpr finds.present,
          Or.inr ⟨claims, hdecoded, hothers, hincomparable⟩⟩

end Raises

/-! ## 3. What escapes -/

/-- A subject is expected, if any, unless the one who names it fails. -/
theorem exists_expectedSubject {rule : VerificationRule} {r : Request}
    (h : ∀ resolve, rule.subjectResolver = some resolve → ∃ v, resolve r = .ok v) :
    ∃ subject, rule.expectedSubject r = .ok subject := by
  cases hresolver : rule.subjectResolver with
  | none =>
    rw [VerificationRule.expectedSubject, hresolver]
    exact ⟨_, rfl⟩
  | some resolve =>
    obtain ⟨v, hv⟩ := h resolve hresolver
    simp only [VerificationRule.expectedSubject, hresolver, hv]
    exact ⟨v, rfl⟩

/-- **Authentication by a verification token**, where the one who names the expected subject does
not fail, ends in a fault that is no refusal in the four ways alone; it yields a principal or a
refusal exactly for the requests with which it takes none of them. -/
theorem escapes_iff {trust : Trust} {rule : VerificationRule} {r : Request}
    (hrequire : trust.require (.verification rule) = .ok ())
    (haction : rule.action.isBlank = false)
    (hresolver : ∀ resolve, rule.subjectResolver = some resolve → ∃ v, resolve r = .ok v)
    (now : Instant) :
    ∃ config, trust.verification = some config
      ∧ (∀ fault, Raises (authenticate trust (.verification rule) r now).outcome fault
        ↔ Escapes config rule r now fault)
      ∧ (((∃ p, (authenticate trust (.verification rule) r now).outcome = .ok p)
          ∨ ∃ fault, (authenticate trust (.verification rule) r now).outcome = .error fault
            ∧ fault.isWeb = true)
        ↔ ∀ fault, ¬ Escapes config rule r now fault) := by
  obtain ⟨subject, hsubject⟩ := exists_expectedSubject hresolver
  have hnamed : ∀ raised, ¬ LacksSubject trust r (.verification rule) raised := by
    rintro raised ⟨-, hfails⟩
    cases hsubject.symm.trans hfails
  cases hconfig : trust.verification with
  | none =>
    rw [Trust.require, hconfig, if_pos Option.isNone_none] at hrequire
    cases hrequire
  | some config =>
    have hraises : ∀ fault, Raises (authenticate trust (.verification rule) r now).outcome fault
        ↔ Escapes config rule r now fault := by
      intro fault
      rw [outcome_authenticate_of_named hnamed]
      exact raises_verification_iff hconfig haction hsubject
    refine ⟨config, rfl, hraises, ?_⟩
    simp only [← hraises]
    cases (authenticate trust (.verification rule) r now).outcome with
    | ok p => exact iff_of_true (Or.inl ⟨p, rfl⟩) fun fault => not_raises_ok p
    | error fault =>
      cases hweb : fault.isWeb with
      | true => exact iff_of_true (Or.inr ⟨fault, rfl, hweb⟩) fun _ => not_raises_of_isWeb hweb
      | false =>
        refine iff_of_false ?_ fun h => h fault ⟨rfl, hweb⟩
        rintro (⟨p, h⟩ | ⟨refusal, h, hrefusal⟩)
        · cases h
        · obtain rfl := Except.error.inj h
          exact absurd (hweb.symm.trans hrefusal) Bool.false_ne_true

/-- The request for a reset with a lone surrogate for its code. -/
def surrogateCodeRequest : Request :=
  { resetRequest with
    query := []
    body := Bytes.ofAscii "\x7b\"verificationOtp\": \"\\ud800\"\x7d" }

/-- The claims of the token for a reset. -/
def orderedClaims : Members := [
  ("act", .text "RESET"), ("jti", .text "1"), ("iss", .text "server-engine"), ("iat", .int 0),
  ("exp", .int 300),
  ("otp", .text "2dbff8f7b3baef25b0fbaedfe8c47199eb7387dffaefece6cd472f3dea44805e"),
  ("sub", .text "me")]

theorem escapes_surrogateCode :
    resetTrust.require (.verification resetRule) = .ok ()
      ∧ resetRule.action.isBlank = false
      ∧ resetRule.subjectResolver = none
      ∧ Raises (authenticate resetTrust (.verification resetRule) surrogateCodeRequest 50).outcome
        (.ofKind .encoding) := by
  have hrequire : resetTrust.require (.verification resetRule) = .ok () := rfl
  have haction : resetRule.action.isBlank = false := by decide
  have hresolver : ∀ resolve, resetRule.subjectResolver = some resolve →
      ∃ v, resolve surrogateCodeRequest = .ok v := nofun
  refine ⟨hrequire, haction, rfl, ?_⟩
  obtain ⟨config, hconfig, hraises, -⟩ := escapes_iff hrequire haction hresolver 50
  obtain rfl := Option.some.inj hconfig
  let surrogate : Text := [CodePoint.ofNat 0xD800]
  have hfinds : Finds resetRule surrogateCodeRequest orderedToken (some surrogate) := {
    tokenFound := ok_of_toOption (by decide +kernel)
    codeFound := ok_of_toOption (by decide +kernel)
    present := fun _ => ⟨surrogate, rfl, List.cons_ne_nil _ _⟩ }
  have hdecoded : (resetConfig none).decoded
      (demandOf resetRule (some surrogate) (.text "me")) orderedToken 50
        = .ok orderedClaims := ok_of_toOption (by decide +kernel)
  have hothers : ∀ check, check ≠ .code → Asks (resetConfig none)
      (demandOf resetRule (some surrogate) (.text "me")) orderedClaims check := by
    refine asks_others ⟨⟨"RESET", rfl, by decide⟩, "1", rfl, by decide⟩ ?_
      (fun _ => ⟨"me", rfl, by decide⟩) ?_
    · rintro t ⟨⟩
      have hnormal : Text.upper (Text.strip " Reset") = "RESET" := by decide +kernel
      rw [show resetRule.action = " Reset" from rfl, hnormal]
      rfl
    · rintro s ⟨⟩ -
      exact Or.inr rfl
  have hcode : Incomparable (resetConfig none)
      (demandOf resetRule (some surrogate) (.text "me")) orderedClaims
      (.ofKind .encoding) := by
    refine .octets ⟨rfl, List.cons_ne_nil _ _⟩ rfl fun hwhole => ?_
    exact absurd (hwhole.2 _ List.mem_cons_self) (by decide)
  exact (hraises _).mpr (.code hfinds rfl hdecoded hothers hcode)

/-- A request whose token is a lone surrogate. -/
def surrogateTokenRequest : Request :=
  { resetRequest with
    headers := []
    body := Bytes.ofAscii "\x7b\"verificationToken\": \"\\ud800\"\x7d" }

/-- A token that has no octets is not refused. -/
theorem authenticate_surrogateToken :
    resetTrust.require (.verification resetRule) = .ok ()
      ∧ resetRule.action.isBlank = false
      ∧ resetRule.subjectResolver = none
      ∧ (authenticate resetTrust (.verification resetRule) surrogateTokenRequest 50).outcome
        = .error (.ofKind .encoding)
      ∧ (Fault.ofKind .encoding).isWeb = false := by
  refine ⟨rfl, by decide, rfl, ?_, rfl⟩
  rfl

end Portcullis.Authentication
