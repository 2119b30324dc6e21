/-
# Accepted through a lifetime

Nothing but the clock changes what becomes of a token.  Whatever the token, its key and what is
demanded of it, it is never accepted, or it is accepted exactly through the lifetime that its claims
say, with the same result all the time (`Lives`).  So it is accepted between any two times at which
it is; and once it has been refused because its time is over, it is refused for that ever after
(`Lasting`).

**Main statement.**  `accepted_through_lifetime`.
-/
import Portcullis.Proofs.Access.Workable
import Portcullis.Proofs.Token.Formed
import Portcullis.Proofs.Verification.Accepted
import Portcullis.Proofs.Verification.Faults

namespace Portcullis

namespace Token

/-! ## 1. What lasts -/

/-- What a verification yields over time: nothing ever, or one result, at exactly the times of a
lifetime that claims in the token say. -/
inductive Lives {α : Type} (token : Text) (verify : Instant → Except Fault α) : Prop
  | never (refused : ∀ now a, verify now ≠ .ok a)
  | between {claims : Members} {start stop : Int} {a : α} (carried : Carries token claims)
      (lifetime : Lifetime claims start stop)
      (accepted : ∀ (now : Instant) (b : α),
        verify now = .ok b ↔ b = a ∧ (start : Rat) ≤ now ∧ now < (stop : Rat))

/-- A refusal because the time of a token is over. -/
inductive TellsExpiry : Fault → Prop
  | access (message : Text) : TellsExpiry (.access .expired message)
  | verification (message code : Text) (status : Int) (data : Except Fault Json) (hint : Json) :
      TellsExpiry (.web message code status data hint (some (.token .expired)))

/-- A token is accepted through a lifetime: also between times at which it is, and not again once
its time is over. -/
structure Lasting {α : Type} (token : Text) (verify : Instant → Except Fault α) : Prop where
  lives : Lives token verify
  between : ∀ {early now late : Instant} {a b : α}, early ≤ now → now ≤ late →
    verify early = .ok a → verify late = .ok b → verify now = .ok a ∧ b = a
  ended : ∀ {now later : Instant} {fault : Fault}, verify now = .error fault → TellsExpiry fault →
    now ≤ later → verify later = .error fault

/-- What is accepted at two times is accepted between them. -/
theorem Lives.accepted_between {α : Type} {token : Text} {verify : Instant → Except Fault α}
    (h : Lives token verify) {early now late : Instant} {a b : α} (hearly : early ≤ now)
    (hlate : now ≤ late) (ha : verify early = .ok a) (hb : verify late = .ok b) :
    verify now = .ok a ∧ b = a := by
  cases h with
  | never refused => exact absurd ha (refused early a)
  | @between claims start stop c _ _ accepted =>
    obtain ⟨rfl, hstart, -⟩ := (accepted early a).mp ha
    obtain ⟨rfl, -, hstop⟩ := (accepted late b).mp hb
    exact ⟨(accepted now b).mpr ⟨rfl, hstart.trans hearly, hlate.trans_lt hstop⟩, rfl⟩

/-- What is made of a result without looking at the clock lasts as long. -/
theorem Lives.andThen {α β : Type} {token : Text} {read : Instant → Except Fault α}
    (h : Lives token read) {f : α → Except Fault β} {verify : Instant → Except Fault β}
    (hverify : ∀ now b, verify now = .ok b ↔ ∃ a, read now = .ok a ∧ f a = .ok b) :
    Lives token verify := by
  cases h with
  | never refused =>
    refine .never fun now b hb => ?_
    obtain ⟨a, ha, -⟩ := (hverify now b).mp hb
    exact refused now a ha
  | @between claims start stop a carried lifetime accepted =>
    cases hf : f a with
    | error fault =>
      refine .never fun now b hb => ?_
      obtain ⟨a', ha', hb⟩ := (hverify now b).mp hb
      obtain ⟨rfl, -⟩ := (accepted now a').mp ha'
      cases hf.symm.trans hb
    | ok c =>
      refine .between carried lifetime (a := c) fun now b => ?_
      rw [hverify]
      constructor
      · rintro ⟨a', ha', hb⟩
        obtain ⟨rfl, hin⟩ := (accepted now a').mp ha'
        exact ⟨Except.ok.inj (hb.symm.trans hf), hin⟩
      · rintro ⟨rfl, hin⟩
        exact ⟨a, (accepted now a).mpr ⟨rfl, hin⟩, hf⟩

/-- **What is read of a token** lasts through a lifetime, if its claims have to say the times. -/
theorem lives_read (algorithm key token : Text) (expect : Expectations)
    (hissued : ("iat" : Text) ∈ expect.required) (hend : ("exp" : Text) ∈ expect.required) :
    Lives token fun now => read algorithm key expect now token := by
  by_cases hever : ∃ now claims, read algorithm key expect now token = .ok claims
  case neg =>
    refine .never fun now claims hread => ?_
    exact hever ⟨now, claims, hread⟩
  obtain ⟨moment, claims, hread⟩ := hever
  obtain ⟨hcontents, hcheck⟩ := read_ok_iff.mp hread
  obtain ⟨hin, hparties⟩ := checkClaims_ok_iff.mp hcheck
  obtain ⟨start, stop, hlifetime⟩ := hin.exists_lifetime hissued hend
  refine .between (carries_of_contents hcontents) hlifetime (a := claims) fun now found => ?_
  rw [← hlifetime.inTime_iff hin.present, read_ok_iff, checkClaims_ok_iff, hcontents]
  constructor
  · rintro ⟨hfound, htime, -⟩
    obtain rfl := Except.ok.inj hfound
    exact ⟨rfl, htime⟩
  · rintro ⟨rfl, htime⟩
    exact ⟨rfl, htime, hparties⟩

end Token

open Token

/-! ## 2. Access tokens -/

namespace TokenTrust

/-- The last check of claims that are read: that they name the issuer, and it is trusted. -/
def confirm (trust : TokenTrust) (issuer : Issuer) (key : IssuerKey) (claims : Members) :
    Except Fault Members :=
  if trust.trusted.contains issuer && claims.getD "iss" == .text key.name then .ok claims
  else .error (.access .issuerNotTrusted
    (("Issuer " : Text) ++ (claims.getD "iss").shown ++ " is not trusted"))

theorem lives_verify (trust : TokenTrust) (issuer : Issuer) (token : Text) :
    Lives token (trust.verify token issuer) := by
  cases hkey : trust.keys issuer with
  | none =>
    refine .never fun now claims hok => ?_
    rw [verify, hkey] at hok
    cases hok
  | some key =>
    have hread := lives_read key.algorithm key.verifyKey token (trust.expectations issuer)
      (by simp [expectations]) (by simp [expectations])
    refine hread.andThen (f := trust.confirm issuer key) fun now claims => ?_
    rw [verify, hkey]
    simp only
    cases Token.read key.algorithm key.verifyKey (trust.expectations issuer) now token with
    | error fault => simp
    | ok found => simp [confirm]

/-- A stage is that of expiry only for a token whose time is over. -/
theorem eq_expired_of_reasonOf {flaw : Flaw} (h : reasonOf flaw = .expired) : flaw = .expired := by
  cases flaw <;> first | rfl | cases h

/-- An access token whose time is over stays refused. -/
theorem verify_of_expired {trust : TokenTrust} {issuer : Issuer} {token : Text}
    {now later : Instant} {fault : Fault} (h : trust.verify token issuer now = .error fault)
    (hexpiry : TellsExpiry fault) (hle : now ≤ later) :
    trust.verify token issuer later = .error fault := by
  cases hkey : trust.keys issuer with
  | none =>
    rw [verify, hkey] at h ⊢
    exact h
  | some key =>
  cases hread : Token.read key.algorithm key.verifyKey (trust.expectations issuer) now token with
  | ok claims =>
    rcases verify_of_read hkey hread with ⟨-, -, hok⟩ | ⟨message, herror⟩
    · cases h.symm.trans hok
    · obtain rfl := Except.error.inj (h.symm.trans herror)
      cases hexpiry
  | error cause =>
    obtain rfl := Except.error.inj (h.symm.trans (verify_of_read_error hkey hread))
    cases failsOnly_read _ _ _ _ _ _ hread with
    | ofKey hofKey => cases hofKey <;> cases hexpiry
    | token flaw =>
      have hreason : reasonOf flaw = .expired := by
        generalize hrefused : refuse (.token flaw) = refused at hexpiry
        cases hexpiry with
        | access message => exact (Fault.access.inj hrefused).1
        | verification => cases hrefused
      obtain rfl := eq_expired_of_reasonOf hreason
      exact verify_of_read_error hkey (read_of_expired hread hle)

end TokenTrust

/-! ## 3. Verification tokens -/

namespace Verification

section Verify

variable (config : Verification) (demand : Demand) (token : Text)

/-- Whether a code is missing does not depend on the clock, and neither does what becomes of claims
that are read. -/
theorem lives_verify : Lives token (config.verify demand token) := by
  cases hmissing : demand.requireCode && (givenCode demand).isNone with
  | true =>
    refine .never fun now accepted hok => ?_
    rw [verify, hmissing, if_pos rfl] at hok
    cases hok
  | false =>
    have hread := lives_read algorithm config.secret token (config.expectations demand)
      (by simp [expectations]) (by simp [expectations])
    refine hread.andThen (f := config.judge demand) fun now accepted => ?_
    have hpresent := (passes_codePresent_iff config demand token now).mpr hmissing
    constructor
    · intro hok
      rw [verify, hmissing] at hok
      obtain ⟨claims, hclaims, hjudge⟩ := bind_eq_ok hok
      exact ⟨claims, readToken_ok hclaims, hjudge⟩
    · rintro ⟨claims, hclaims, hjudge⟩
      rw [verify_of_decoded hpresent hclaims, hjudge]

/-- Claims that are read are not judged to be too old. -/
theorem failsOnly_judge_not_expiry (claims : Members) :
    FailsOnly (fun fault => ¬ TellsExpiry fault) (config.judge demand claims) := by
  have hidentified : FailsOnly (fun fault => ¬ TellsExpiry fault) (readIdentity claims) := by
    unfold readIdentity
    split
    · exact failsOnly_ok _
    · exact failsOnly_error (by rintro ⟨⟩)
  cases hidentity : readIdentity claims with
  | ok identity =>
    refine (failsOnly_judge config demand hidentity).mono fun fault hdisputes => ?_
    cases hdisputes <;> rintro ⟨⟩
  | error fault =>
    rw [judge, hidentity]
    exact failsOnly_error (hidentified fault hidentity)

/-- A verification token whose time is over stays refused. -/
theorem verify_of_expired {now later : Instant} {fault : Fault}
    (h : config.verify demand token now = .error fault) (hexpiry : TellsExpiry fault)
    (hle : now ≤ later) : config.verify demand token later = .error fault := by
  cases hmissing : demand.requireCode && (givenCode demand).isNone with
  | true =>
    rw [verify, hmissing, if_pos rfl] at h ⊢
    exact h
  | false =>
  have hpresent := fun t => (passes_codePresent_iff config demand token t).mpr hmissing
  cases hread : config.decoded demand token now with
  | ok claims =>
    rw [verify_of_decoded (hpresent now) hread] at h
    exact absurd hexpiry (failsOnly_judge_not_expiry config demand claims fault h)
  | error cause =>
    cases failsOnly_read _ _ _ _ _ _ hread with
    | ofKey hofKey =>
      rw [verify, hmissing, readToken_of_fault hofKey.ne_token hread] at h
      obtain rfl := Except.error.inj h
      cases hofKey <;> cases hexpiry
    | token flaw =>
      obtain rfl := Except.error.inj (h.symm.trans (verify_of_flaw (hpresent now) hread))
      cases hexpiry
      exact verify_of_flaw (hpresent later) (read_of_expired hread hle)

end Verify

end Verification

/-! ## 4. Both -/

namespace Token

/-- **A token is accepted through a lifetime**, by whatever verifies it. -/
theorem accepted_through_lifetime :
    (∀ (trust : TokenTrust) (issuer : Issuer) (token : Text),
      Lasting token (trust.verify token issuer))
    ∧ ∀ (config : Verification) (demand : Verification.Demand) (token : Text),
      Lasting token (config.verify demand token) := by
  constructor
  · intro trust issuer token
    have hlives := trust.lives_verify issuer token
    exact ⟨hlives, hlives.accepted_between, TokenTrust.verify_of_expired⟩
  · intro config demand token
    have hlives := config.lives_verify demand token
    exact ⟨hlives, hlives.accepted_between, config.verify_of_expired demand token⟩

/-- A token from `0` to `100` is accepted from the first of them on, and up to any time before the
second. -/
example : [(-1 / 2 : Instant), 0, 199 / 2, 100].map (fun now =>
    (TokenTrust.sharedKeyTrust.verify TokenTrust.sharedKeyToken .authService now).isOk)
      = [false, true, true, false] := by
  decide +kernel

end Token

end Portcullis
