/-
# How a verification token is decided

A token is decided by seven checks (`Check`), of which the first that fails names the refusal: the
code that has to be presented, the token itself, its action and identifier, the expected action, the
subject that has to be there, the expected subject, and the code that is presented.  What each check
asks for is said in terms of the token's claims (`Passes`), apart from the functions that check it.

The token itself passes only if it is genuine (`Genuine`): signed under the secret, in time, and for
the expected issuer and audience.

**Main statement.**  `verify_decided`.
-/
import Portcullis.Proofs.Access.Verify
import Portcullis.Verification

namespace Portcullis

namespace Verification

/-! ## 1. The checks -/

/-- The checks of a token. -/
inductive Check where
  | codePresent
  | token
  | identity
  | action
  | subjectPresent
  | subject
  | code
deriving DecidableEq

namespace Check

/-- The order in which the checks count. -/
def order : List Check :=
  [.codePresent, .token, .identity, .action, .subjectPresent, .subject, .code]

/-- The status and the code of the refusal when a check fails. -/
def refusal : Check → Int × Text
  | codePresent => (400, "verification_otp_missing")
  | token | identity => (401, "unauthorized")
  | action | subjectPresent | subject | code => (403, "verification_failed")

end Check

/-- A claim is a text that is not empty. -/
def Filled (claims : Members) (name : Text) : Prop :=
  ∃ t, claims.get? name = some (.text t) ∧ t ≠ []

/-- A code is presented. -/
def Presents (demand : Demand) (code : Text) : Prop := demand.code = some code ∧ code ≠ []

/-- The claims hold the keyed digest of a code, in hexadecimal digits. -/
def HoldsDigest (config : Verification) (claims : Members) (code : Text) : Prop :=
  ∃ key octets, config.codeKey.utf8? = some key ∧ code.utf8? = some octets
    ∧ claims.get? "otp" = some (.text (Bytes.hex (Hash.sha256.hmac key octets)))

/-- What a check asks of the claims. -/
def Asks (config : Verification) (demand : Demand) (claims : Members) : Check → Prop
  | .codePresent | .token => True
  | .identity => Filled claims "act" ∧ Filled claims "jti"
  | .action => ∀ t, demand.action = .text t → claims.get? "act" = some (.text t.strip.upper)
  | .subjectPresent => demand.requireSubject = true → Filled claims "sub"
  | .subject => ∀ s, claims.get? "sub" = some (.text s) → s ≠ [] →
      demand.subject = .null ∨ demand.subject = .text s
  | .code => ∀ code, Presents demand code → HoldsDigest config claims code

/-- The claims in a token, if it is one of the secret, the issuer, the audience and the time. -/
def decoded (config : Verification) (demand : Demand) (token : Text) (now : Instant) :
    Except Fault Members :=
  Token.read algorithm config.secret (config.expectations demand) now token

/-- A token passes a check.  The first check is before the token is looked at. -/
def Passes (config : Verification) (demand : Demand) (token : Text) (now : Instant) :
    Check → Prop
  | .codePresent => demand.requireCode = true → ∃ code, Presents demand code
  | check => ∃ claims, config.decoded demand token now = .ok claims
      ∧ Asks config demand claims check

/-- A result is the refusal of a check. -/
def IsRefusal {α : Type} (check : Check) (result : Except Fault α) : Prop :=
  ∃ message data cause, result
    = .error (.web message check.refusal.2 check.refusal.1 (.ok data) .null cause)

/-- A code cannot be held against the digest in the token: the key for digests has no octets. -/
def Keyless (config : Verification) (demand : Demand) (token : Text) (now : Instant) : Prop :=
  ¬ Text.Whole config.codeKey ∧ ∃ claims digest,
    config.decoded demand token now = .ok claims ∧ claims.get? "otp" = some (.text digest)

/-- A result is what a check that fails leads to: its refusal, unless it is the one of a code that
cannot be held against the digest. -/
def Refuses {α : Type} (config : Verification) (demand : Demand) (token : Text) (now : Instant)
    (check : Check) (result : Except Fault α) : Prop :=
  (check = .code ∧ Keyless config demand token now ∧ result = .error (.ofKind .encoding))
    ∨ (¬ (check = .code ∧ Keyless config demand token now) ∧ IsRefusal check result)

/-- A result is decided by checks in turn: the first one that fails refuses, and if none fails the
result is accepted. -/
inductive DecidedBy {α : Type} (passes : Check → Prop) (refuses : Check → Except Fault α → Prop)
    (accepts : Except Fault α → Prop) : List Check → Except Fault α → Prop
  | refused {check : Check} {rest : List Check} {result : Except Fault α}
      (fails : ¬ passes check) (refusal : refuses check result) :
      DecidedBy passes refuses accepts (check :: rest) result
  | next {check : Check} {rest : List Check} {result : Except Fault α} (pass : passes check)
      (others : DecidedBy passes refuses accepts rest result) :
      DecidedBy passes refuses accepts (check :: rest) result
  | accepted {result : Except Fault α} (h : accepts result) :
      DecidedBy passes refuses accepts [] result

theorem IsRefusal.bind {α β : Type} {check : Check} {x : Except Fault α}
    (h : IsRefusal check x) (f : α → Except Fault β) : IsRefusal check (x >>= f) := by
  obtain ⟨message, data, cause, rfl⟩ := h
  exact ⟨message, data, cause, rfl⟩

/-- Checks other than that of the code lead to their refusal. -/
theorem IsRefusal.refuses {α : Type} {check : Check} {result : Except Fault α}
    (h : IsRefusal check result) (hcheck : check ≠ .code) (config : Verification) (demand : Demand)
    (token : Text) (now : Instant) : Refuses config demand token now check result :=
  Or.inr ⟨fun hcode => hcheck hcode.1, h⟩

/-! ## 2. A genuine token -/

/-- The key of verification tokens. -/
def signer (config : Verification) : IssuerKey :=
  ⟨config.issuer, "HS256", config.secret, some config.secret, none⟩

/-- The token is signed under the secret, in time, of the expected issuer and, if there is one, for
the expected audience. -/
structure Genuine (config : Verification) (demand : Demand) (token : Text) (now : Instant)
    (claims : Members) : Prop where
  signed : Token.SignedBy config.signer token claims
  inTime : Token.InTime claims ["exp", "iat", "iss"] now
  issuer : claims.get? "iss" = some (.text (config.issuerFor demand.issuer))
  audience : ∀ a, config.audienceFor demand.audience = some a → Token.Names claims a
  subject : claims.get? "sub" = none ∨ ∃ t, claims.get? "sub" = some (.text t)

theorem genuine_of_decoded {config : Verification} {demand : Demand} {token : Text}
    {now : Instant} {claims : Members} (h : config.decoded demand token now = .ok claims) :
    Genuine config demand token now claims := by
  obtain ⟨segments, hsegments, hobject, hcheck⟩ := Token.read_ok h
  obtain ⟨htime, hparties⟩ := Token.inTime_of_checkClaims hcheck
  have hkey : Token.authenticate config.signer.algorithm config.signer.verifyKey token
      = .ok segments := hsegments
  refine ⟨Token.signedBy_of_authenticate hkey hobject, htime, hparties.issuer _ rfl, ?_,
    hparties.subject⟩
  intro a ha
  exact hparties.audience a (congrArg (Option.map some) ha)

/-! ## 3. One check after the other -/

theorem filledText?_eq_some_iff (v : Json) (t : Text) :
    filledText? v = some t ↔ v = .text t ∧ t ≠ [] := by
  cases v with
  | text u =>
    cases u with
    | nil => simp [filledText?, eq_comm]
    | cons c u =>
      simp only [filledText?, Option.some.injEq, Json.text.injEq]
      constructor
      · rintro rfl
        exact ⟨rfl, List.cons_ne_nil c u⟩
      · exact fun h => h.1
  | _ => simp [filledText?]

/-- A filled text is found exactly under a filled claim. -/
theorem filledText?_getD_iff (claims : Members) (name t : Text) :
    filledText? (claims.getD name) = some t ↔ claims.get? name = some (.text t) ∧ t ≠ [] := by
  rw [filledText?_eq_some_iff]
  refine and_congr_left' ⟨fun h => Members.get?_of_getD h rfl, fun h => ?_⟩
  exact congrArg (Option.getD · Json.null) h

theorem filled_iff (claims : Members) (name : Text) :
    Filled claims name ↔ ∃ t, filledText? (claims.getD name) = some t :=
  exists_congr fun t => (filledText?_getD_iff claims name t).symm

theorem orElse_none_eq_some_iff (override : Option Text) (t : Text) :
    orElse override none = some t ↔ override = some t ∧ t ≠ [] := by
  cases override with
  | none => simp [orElse]
  | some u =>
    cases u with
    | nil => simp [orElse, eq_comm]
    | cons c u =>
      simp only [orElse, Option.some.injEq]
      constructor
      · rintro rfl
        exact ⟨rfl, List.cons_ne_nil c u⟩
      · exact fun h => h.1

theorem givenCode_eq_some_iff (demand : Demand) (code : Text) :
    givenCode demand = some code ↔ Presents demand code :=
  orElse_none_eq_some_iff demand.code code

/-- The action and the identifier are read if both are there. -/
theorem readIdentity_cases (claims : Members) :
    (∃ action identifier, (claims.get? "act" = some (.text action) ∧ action ≠ [])
        ∧ (claims.get? "jti" = some (.text identifier) ∧ identifier ≠ [])
        ∧ readIdentity claims = .ok (action, identifier))
      ∨ (¬ (Filled claims "act" ∧ Filled claims "jti")
        ∧ IsRefusal .identity (readIdentity claims)) := by
  rw [readIdentity, filled_iff, filled_iff]
  cases haction : filledText? (claims.getD "act") with
  | none => exact Or.inr ⟨by simp, _, _, _, rfl⟩
  | some action =>
    cases hidentifier : filledText? (claims.getD "jti") with
    | none => exact Or.inr ⟨by simp, _, _, _, rfl⟩
    | some identifier =>
      exact Or.inl ⟨action, identifier, (filledText?_getD_iff _ _ _).mp haction,
        (filledText?_getD_iff _ _ _).mp hidentifier, rfl⟩

/-- The action fits the demand, or the refusal is that of the action. -/
theorem checkAction_cases {demand : Demand} (config : Verification)
    (haction : demand.action = .null ∨ ∃ t, demand.action = .text t ∧ t.isBlank = false)
    {claims : Members} {action : Text} (hclaim : claims.get? "act" = some (.text action)) :
    (Asks config demand claims .action ∧ checkAction demand action = .ok ())
      ∨ (¬ Asks config demand claims .action ∧ IsRefusal .action (checkAction demand action)) := by
  simp only [Asks, hclaim, Option.some.injEq, Json.text.injEq]
  rcases haction with hnull | ⟨t, htext, hblank⟩
  · refine Or.inl ⟨?_, by simp [checkAction, hnull, Json.isNull]⟩
    intro t htext
    cases hnull.symm.trans htext
  · have hexpected : normalizeAction demand.action = .ok t.strip.upper := by
      rw [htext, normalizeAction, hblank]
      rfl
    have hnotNull : demand.action.isNull = false := by rw [htext]; rfl
    have hcheck : checkAction demand action = if action = t.strip.upper then .ok ()
        else .error (mismatch "Verification action mismatch"
          [("expected", .text t.strip.upper), ("actual", .text action)]) := by
      rw [checkAction, hnotNull, hexpected]
      rfl
    rw [hcheck, htext]
    by_cases heq : action = t.strip.upper
    · refine Or.inl ⟨?_, if_pos heq⟩
      rintro _ ⟨⟩
      exact heq
    · exact Or.inr ⟨fun h => heq (h t rfl), _, _, _, if_neg heq⟩

/-- The subject fits the demand, or the refusal is that of the first of its two checks that
fails. -/
theorem checkSubject_cases (config : Verification) (demand : Demand) (claims : Members) :
    (Asks config demand claims .subjectPresent ∧ Asks config demand claims .subject
        ∧ checkSubject demand claims = .ok ())
      ∨ (¬ Asks config demand claims .subjectPresent
        ∧ IsRefusal .subjectPresent (checkSubject demand claims))
      ∨ (Asks config demand claims .subjectPresent ∧ ¬ Asks config demand claims .subject
        ∧ IsRefusal .subject (checkSubject demand claims)) := by
  simp only [Asks, filled_iff]
  rw [checkSubject]
  cases hsubject : filledText? (claims.getD "sub") with
  | none =>
    have hfits : ∀ s, claims.get? "sub" = some (.text s) → s ≠ [] →
        demand.subject = .null ∨ demand.subject = .text s := by
      intro s hs hne
      cases hsubject.symm.trans ((filledText?_getD_iff _ _ _).mpr ⟨hs, hne⟩)
    cases hrequire : demand.requireSubject with
    | false => exact Or.inl ⟨by simp, hfits, rfl⟩
    | true => exact Or.inr (Or.inl ⟨by simp, _, _, _, rfl⟩)
  | some subject =>
    obtain ⟨hclaim, hne⟩ := (filledText?_getD_iff _ _ _).mp hsubject
    have hfits : (∀ s, claims.get? "sub" = some (.text s) → s ≠ [] →
        demand.subject = .null ∨ demand.subject = .text s)
          ↔ (demand.subject.isNull || demand.subject == .text subject) = true := by
      have hnull : demand.subject.isNull = true ↔ demand.subject = .null := by
        cases demand.subject <;> simp [Json.isNull]
      rw [Bool.or_eq_true, hnull, beq_iff_eq]
      constructor
      · exact fun h => h subject hclaim hne
      · intro h s hs _
        rwa [← Json.text.inj (Option.some.inj (hclaim.symm.trans hs))]
    rw [hfits]
    by_cases hcheck : (demand.subject.isNull || demand.subject == .text subject) = true
    · exact Or.inl ⟨fun _ => ⟨subject, rfl⟩, hcheck, if_pos hcheck⟩
    · exact Or.inr (Or.inr ⟨fun _ => ⟨subject, rfl⟩, hcheck, _, _, _, if_neg hcheck⟩)

/-- The code that is presented is the one of the token; or the refusal is that of the code, or there
is no key to tell. -/
theorem checkCode_cases {config : Verification} {demand : Demand}
    (hcode : ∀ code, Presents demand code → Text.Whole code) {claims : Members}
    (hascii : ∀ digest, claims.get? "otp" = some (.text digest) → digest.isAscii = true) :
    (Asks config demand claims .code
        ∧ config.checkCode demand (claims.getD "otp") = .ok (givenCode demand).isSome)
      ∨ (¬ Asks config demand claims .code
        ∧ ((¬ Text.Whole config.codeKey ∧ (∃ digest, claims.get? "otp" = some (.text digest))
            ∧ config.checkCode demand (claims.getD "otp") = .error (.ofKind .encoding))
          ∨ (¬ (¬ Text.Whole config.codeKey ∧ ∃ digest, claims.get? "otp" = some (.text digest))
            ∧ IsRefusal .code (config.checkCode demand (claims.getD "otp"))))) := by
  simp only [Asks, ← givenCode_eq_some_iff]
  rw [checkCode]
  cases hgiven : givenCode demand with
  | none =>
    refine Or.inl ⟨?_, rfl⟩
    rintro code ⟨⟩
  | some code =>
    have hwhole := hcode code ((givenCode_eq_some_iff demand code).mp hgiven)
    have hoctets := (Text.utf8?_eq_some_iff code _).mpr ⟨hwhole, rfl⟩
    -- The key is looked at only if there is a text to compare with, so this case comes first.
    by_cases htext : ∃ digest, claims.get? "otp" = some (.text digest)
    case neg =>
      refine Or.inr ⟨fun hall => ?_, Or.inr ⟨fun hkeyless => htext hkeyless.2, ?_⟩⟩
      · obtain ⟨_, _, _, _, hclaim⟩ := hall code rfl
        exact htext ⟨_, hclaim⟩
      · cases hbound : claims.getD "otp" with
        | text digest => exact absurd ⟨digest, Members.get?_of_getD hbound rfl⟩ htext
        | _ => exact ⟨_, _, _, rfl⟩
    obtain ⟨digest, hclaim⟩ := htext
    have hbound : claims.getD "otp" = .text digest := by
      rw [Members.getD, hclaim, Option.getD_some]
    simp only [hbound]
    by_cases hkeyWhole : Text.Whole config.codeKey
    case neg =>
      have hkey : config.codeKey.utf8? = none := by
        rw [Option.eq_none_iff_forall_ne_some]
        exact fun octets h => hkeyWhole ((Text.utf8?_eq_some_iff _ _).mp h).1
      refine Or.inr ⟨fun hall => ?_, Or.inl ⟨hkeyWhole, ⟨digest, hclaim⟩, ?_⟩⟩
      · obtain ⟨key, _, hsome, _⟩ := hall code rfl
        cases hkey.symm.trans hsome
      · rw [codeDigest, hkey]
        rfl
    have hkey := (Text.utf8?_eq_some_iff config.codeKey _).mpr ⟨hkeyWhole, rfl⟩
    generalize hexpected : Bytes.hex (Hash.sha256.hmac (config.codeKey.flatMap CodePoint.utf8)
      (code.flatMap CodePoint.utf8)) = expected
    have hdigest : codeDigest code config.codeKey = .ok expected := by
      rw [codeDigest, hkey, hoctets, ← hexpected]
    simp only [hdigest, ok_bind, hascii digest hclaim, Bool.not_true, Bool.false_eq_true, if_false]
    by_cases heq : digest = expected
    · refine Or.inl ⟨?_, if_pos heq⟩
      rintro _ ⟨⟩
      exact ⟨_, _, hkey, hoctets, by rw [hclaim, heq, ← hexpected]⟩
    · refine Or.inr ⟨fun hall => heq ?_, Or.inr ⟨fun h => h.1 hkeyWhole, _, _, _, if_neg heq⟩⟩
      obtain ⟨key, octets, hkey', hoctets', hholds⟩ := hall code rfl
      obtain rfl := Option.some.inj (hkey.symm.trans hkey')
      obtain rfl := Option.some.inj (hoctets.symm.trans hoctets')
      exact (Json.text.inj (Option.some.inj (hclaim.symm.trans hholds))).trans hexpected

/-! ## 4. The decision -/

/-- What is returned says what the claims say. -/
structure Says (demand : Demand) (claims : Members) (accepted : Accepted) : Prop where
  action : claims.get? "act" = some (.text accepted.action)
  identifier : claims.get? "jti" = some (.text accepted.identifier)
  subject : claims.get? "sub" = accepted.subject.map Json.text
  codeBound : accepted.codeBound = true ↔ ∃ t, claims.get? "otp" = some (.text t)
  codeVerified : accepted.codeVerified = true ↔ ∃ code, Presents demand code
  issuer : claims.get? "iss" = some accepted.issuer
  expiresAt : claims.get? "exp" = some accepted.expiresAt

/-- What is returned of the claims of a genuine token. -/
theorem says_of_genuine {config : Verification} {demand : Demand} {token : Text} {now : Instant}
    {claims : Members} (h : Genuine config demand token now claims) {action identifier : Text}
    (haction : claims.get? "act" = some (.text action))
    (hidentifier : claims.get? "jti" = some (.text identifier)) :
    Says demand claims {
      action, identifier
      subject := (claims.getD "sub").text?
      codeBound := (claims.getD "otp").text?.isSome
      codeVerified := (givenCode demand).isSome
      issuer := claims.getD "iss"
      expiresAt := claims.getD "exp" } := by
  have hfound : ∀ name v, claims.get? name = some v →
      claims.get? name = some (claims.getD name) := by
    intro name v hv
    rw [Members.getD, hv, Option.getD_some]
  obtain ⟨expiry, hexpiry, -⟩ := h.inTime.present "exp" (by simp)
  refine ⟨haction, hidentifier, ?_, ?_, ?_, hfound _ _ h.issuer, hfound _ _ hexpiry⟩
  · rcases h.subject with hnone | ⟨t, htext⟩
    · rw [hnone, Members.getD, hnone]
      rfl
    · rw [htext, Members.getD, htext]
      rfl
  · rw [Option.isSome_iff_exists]
    refine exists_congr fun t => ⟨fun ht => ?_, fun ht => by rw [Members.getD, ht]; rfl⟩
    refine Members.get?_of_getD ?_ rfl
    generalize claims.getD "otp" = bound at ht
    cases bound with
    | text u => rw [Option.some.inj ht]
    | _ => cases ht
  · rw [Option.isSome_iff_exists]
    exact exists_congr (givenCode_eq_some_iff demand)

/-- The token is accepted, and what is returned says what its claims say. -/
def Accepts (config : Verification) (demand : Demand) (token : Text) (now : Instant)
    (result : Except Fault Accepted) : Prop :=
  ∃ claims accepted, config.decoded demand token now = .ok claims ∧ Says demand claims accepted
    ∧ result = .ok accepted

/-- Of claims that are read, a check holds what it asks of them. -/
theorem passes_iff_asks {config : Verification} {demand : Demand} {token : Text} {now : Instant}
    {claims : Members} (h : config.decoded demand token now = .ok claims) {check : Check}
    (hcheck : check ≠ .codePresent) :
    Passes config demand token now check ↔ Asks config demand claims check := by
  have hexists : Passes config demand token now check
      ↔ ∃ cs, config.decoded demand token now = .ok cs ∧ Asks config demand cs check := by
    cases check with
    | codePresent => exact absurd rfl hcheck
    | _ => rfl
  rw [hexists]
  constructor
  · rintro ⟨cs, hcs, hasks⟩
    rwa [Except.ok.inj (h.symm.trans hcs)]
  · exact fun hasks => ⟨claims, h, hasks⟩

/-- What is done with the claims of a token. -/
def judge (config : Verification) (demand : Demand) (claims : Members) : Except Fault Accepted := do
  let (action, identifier) ← readIdentity claims
  checkAction demand action
  checkSubject demand claims
  let verified ← config.checkCode demand (claims.getD "otp")
  return {
    action, identifier
    subject := (claims.getD "sub").text?
    codeBound := (claims.getD "otp").text?.isSome
    codeVerified := verified
    issuer := claims.getD "iss"
    expiresAt := claims.getD "exp" }

/-- The claims of a token are decided by the checks that ask something of them. -/
theorem decidedBy_judge {config : Verification} {demand : Demand} {token : Text} {now : Instant}
    {claims : Members} (hdecoded : config.decoded demand token now = .ok claims)
    (haction : demand.action = .null ∨ ∃ t, demand.action = .text t ∧ t.isBlank = false)
    (hcode : ∀ code, Presents demand code → Text.Whole code)
    (hascii : ∀ digest, claims.get? "otp" = some (.text digest) → digest.isAscii = true) :
    DecidedBy (Passes config demand token now) (Refuses config demand token now)
      (Accepts config demand token now)
      [.identity, .action, .subjectPresent, .subject, .code] (config.judge demand claims) := by
  have hasks : ∀ check, check ≠ .codePresent → (Passes config demand token now check
      ↔ Asks config demand claims check) := fun check => passes_iff_asks hdecoded
  have hrefuses : ∀ {check : Check} {x : Except Fault Accepted}, check ≠ .code →
      IsRefusal check x → Refuses config demand token now check x :=
    fun hne h => h.refuses hne config demand token now
  rw [judge]
  rcases readIdentity_cases claims with
    ⟨action, identifier, ⟨hact, hactNe⟩, ⟨hjti, hjtiNe⟩, hok⟩ | ⟨hno, hrefusal⟩
  case inr =>
    exact .refused (mt (hasks _ (by decide)).mp hno) (hrefuses (by decide) (hrefusal.bind _))
  refine .next ((hasks _ (by decide)).mpr ⟨⟨action, hact, hactNe⟩, identifier, hjti, hjtiNe⟩) ?_
  simp only [hok, ok_bind]
  rcases checkAction_cases config haction hact with ⟨hyes, hok⟩ | ⟨hno, hrefusal⟩
  case inr =>
    exact .refused (mt (hasks _ (by decide)).mp hno) (hrefuses (by decide) (hrefusal.bind _))
  refine .next ((hasks _ (by decide)).mpr hyes) ?_
  rw [hok, ok_bind]
  rcases checkSubject_cases config demand claims with
    ⟨hpresent, hfits, hok⟩ | ⟨hno, hrefusal⟩ | ⟨hpresent, hno, hrefusal⟩
  case inr.inl =>
    exact .refused (mt (hasks _ (by decide)).mp hno) (hrefuses (by decide) (hrefusal.bind _))
  case inr.inr =>
    exact .next ((hasks _ (by decide)).mpr hpresent)
      (.refused (mt (hasks _ (by decide)).mp hno) (hrefuses (by decide) (hrefusal.bind _)))
  refine .next ((hasks _ (by decide)).mpr hpresent) (.next ((hasks _ (by decide)).mpr hfits) ?_)
  rw [hok, ok_bind]
  have hkeyless : Keyless config demand token now
      ↔ ¬ Text.Whole config.codeKey ∧ ∃ digest, claims.get? "otp" = some (.text digest) := by
    refine and_congr_right' ⟨?_, fun ⟨digest, hclaim⟩ => ⟨claims, digest, hdecoded, hclaim⟩⟩
    rintro ⟨cs, digest, hcs, hclaim⟩
    obtain rfl := Except.ok.inj (hdecoded.symm.trans hcs)
    exact ⟨digest, hclaim⟩
  rcases checkCode_cases hcode hascii with
    ⟨hyes, hok⟩ | ⟨hno, ⟨hwhole, hclaim, herror⟩ | ⟨hkey, hrefusal⟩⟩
  case inr.inl =>
    refine .refused (mt (hasks _ (by decide)).mp hno)
      (Or.inl ⟨rfl, hkeyless.mpr ⟨hwhole, hclaim⟩, ?_⟩)
    rw [herror]
    rfl
  case inr.inr =>
    exact .refused (mt (hasks _ (by decide)).mp hno)
      (Or.inr ⟨fun h => hkey (hkeyless.mp h.2), hrefusal.bind _⟩)
  refine .next ((hasks _ (by decide)).mpr hyes) (.accepted ?_)
  rw [hok, ok_bind]
  exact ⟨claims, _, hdecoded, says_of_genuine (genuine_of_decoded hdecoded) hact hjti, rfl⟩

/-- A code is there if one is required. -/
theorem passes_codePresent_iff (config : Verification) (demand : Demand) (token : Text)
    (now : Instant) : Passes config demand token now .codePresent
      ↔ (demand.requireCode && (givenCode demand).isNone) = false := by
  have hpresents : (∃ code, Presents demand code) ↔ (givenCode demand).isSome = true := by
    rw [Option.isSome_iff_exists]
    exact exists_congr fun code => (givenCode_eq_some_iff demand code).symm
  simp only [Passes, hpresents]
  cases demand.requireCode <;> simp

section ReadToken

variable {config : Verification} {demand : Demand} {token : Text} {now : Instant}

theorem readToken_of_decoded {claims : Members}
    (h : config.decoded demand token now = .ok claims) :
    config.readToken demand token now = .ok claims := by
  rw [readToken, show Token.read algorithm config.secret (config.expectations demand) now token
    = .ok claims from h]

/-- A flaw is a refusal. -/
theorem readToken_of_flaw {flaw : Token.Flaw}
    (h : config.decoded demand token now = .error (.token flaw)) :
    config.readToken demand token now = .error (.web "Invalid verification token supplied"
      "unauthorized" 401 (.ok .null) .null (some (.token flaw))) := by
  rw [readToken, show Token.read algorithm config.secret (config.expectations demand) now token
    = .error (.token flaw) from h]

/-- Every other fault stays. -/
theorem readToken_of_fault {fault : Fault} (hfault : ∀ flaw, fault ≠ .token flaw)
    (h : config.decoded demand token now = .error fault) :
    config.readToken demand token now = .error fault := by
  rw [readToken, show Token.read algorithm config.secret (config.expectations demand) now token
    = .error fault from h]
  cases fault with
  | token flaw => exact absurd rfl (hfault flaw)
  | _ => rfl

/-- A token that is refused as such is not looked at any further. -/
theorem verify_of_flaw {flaw : Token.Flaw}
    (hpresent : Passes config demand token now .codePresent)
    (hflaw : config.decoded demand token now = .error (.token flaw)) :
    config.verify demand token now = .error (.web "Invalid verification token supplied"
      "unauthorized" 401 (.ok .null) .null (some (.token flaw))) := by
  rw [verify, (passes_codePresent_iff config demand token now).mp hpresent,
    readToken_of_flaw hflaw]
  rfl

/-- A token that is read is judged by its claims. -/
theorem verify_of_decoded {claims : Members}
    (hpresent : Passes config demand token now .codePresent)
    (hclaims : config.decoded demand token now = .ok claims) :
    config.verify demand token now = config.judge demand claims := by
  rw [verify, (passes_codePresent_iff config demand token now).mp hpresent,
    readToken_of_decoded hclaims]
  rfl

end ReadToken

/-- **A token is decided by the first check that fails**, in the order of the checks; if none fails
it is accepted, with what its claims say.  A token whose claims are read at all is genuine. -/
theorem verify_decided {config : Verification} {demand : Demand} {token : Text} {now : Instant}
    (haction : demand.action = .null ∨ ∃ t, demand.action = .text t ∧ t.isBlank = false)
    (hcode : ∀ code, Presents demand code → Text.Whole code)
    (hread : (∃ flaw, config.decoded demand token now = .error (.token flaw))
      ∨ ∃ claims, config.decoded demand token now = .ok claims
        ∧ ∀ digest, claims.get? "otp" = some (.text digest) → digest.isAscii = true) :
    DecidedBy (Passes config demand token now) (Refuses config demand token now)
        (Accepts config demand token now) Check.order (config.verify demand token now)
      ∧ ∀ claims, config.decoded demand token now = .ok claims →
        Genuine config demand token now claims := by
  refine ⟨?_, fun claims => genuine_of_decoded⟩
  by_cases hpresent : Passes config demand token now .codePresent
  case neg =>
    have hverify : config.verify demand token now = .error codeMissing := by
      rw [passes_codePresent_iff, Bool.not_eq_false] at hpresent
      rw [verify, hpresent, if_pos rfl]
    rw [hverify]
    exact .refused hpresent (IsRefusal.refuses ⟨_, _, _, rfl⟩ (by decide) _ _ _ _)
  refine .next hpresent ?_
  rcases hread with ⟨flaw, hflaw⟩ | ⟨claims, hclaims, hascii⟩
  · rw [verify_of_flaw hpresent hflaw]
    refine .refused ?_ (IsRefusal.refuses ⟨_, _, _, rfl⟩ (by decide) _ _ _ _)
    rintro ⟨claims, hclaims, -⟩
    cases hflaw.symm.trans hclaims
  · rw [verify_of_decoded hpresent hclaims]
    exact .next ⟨claims, hclaims, trivial⟩ (decidedBy_judge hclaims haction hcode hascii)

/-- A configuration whose digests are made under a secret of their own, if there is one. -/
def resetConfig (codeSecret : Option Text) : Verification where
  secret := "correct horse battery staple"
  issuer := "server-engine"
  audience := none
  codeSecret := codeSecret

/-- A token for a reset, bound to the code `1234`. -/
def resetToken : Text :=
  ("eyJhbGciOiJIUzI1NiJ9" : Text)
    ++ ".eyJhY3QiOiJSRVNFVCIsImp0aSI6IjEiLCJpc3MiOiJzZXJ2ZXItZW5naW5lIiwiaWF0IjowLCJleHAiOjEwM"
    ++ "Cwib3RwIjoiZGZlYmJkMWM1N2M0MTRlZjVjMWRiNGVkY2E2Y2ZmZDJlYzU2M2RjYTZmZGQxYjQ5MDA5ZDk2MzUx"
    ++ "MThkNmUyYSJ9"
    ++ ".oDmtPa1RQzObS9MElOuXXP9wXNKMsrypbSXkg1yMnpY"

/-- The claims in it. -/
def resetClaims : Members := [
  ("act", .text "RESET"), ("jti", .text "1"), ("iss", .text "server-engine"), ("iat", .int 0),
  ("exp", .int 100),
  ("otp", .text "dfebbd1c57c414ef5c1db4edca6cffd2ec563dca6fdd1b49009d9635118d6e2a")]

/-- The demand of a reset with a code. -/
def resetDemand (code : Text) : Demand where
  action := .text " reset "
  code := some code

theorem verify_decided_resetToken :
    DecidedBy (Passes (resetConfig none) (resetDemand "1234") resetToken 50)
      (Refuses (resetConfig none) (resetDemand "1234") resetToken 50)
      (Accepts (resetConfig none) (resetDemand "1234") resetToken 50) Check.order
      ((resetConfig none).verify (resetDemand "1234") resetToken 50) := by
  have hread : (resetConfig none).decoded (resetDemand "1234") resetToken 50 = .ok resetClaims :=
    ok_of_toOption (by decide +kernel)
  have hcode : ∀ code, Presents (resetDemand "1234") code → Text.Whole code := by
    rintro code ⟨hcode, -⟩
    obtain rfl := Option.some.inj hcode
    exact ((Text.utf8?_eq_some_iff "1234" _).mp rfl).1
  have hascii : ∀ digest, resetClaims.get? "otp" = some (.text digest) →
      digest.isAscii = true := by
    rintro digest ⟨⟩
    decide
  exact (verify_decided (Or.inr ⟨" reset ", rfl, by decide +kernel⟩) hcode
    (Or.inr ⟨resetClaims, hread, hascii⟩)).1

/-- What holds of every refusal and of every acceptance holds of a result that is decided. -/
theorem DecidedBy.holds {α : Type} {passes : Check → Prop} {refuses : Check → Except Fault α → Prop}
    {accepts : Except Fault α → Prop} {p : Except Fault α → Prop}
    (hrefuses : ∀ check result, refuses check result → p result)
    (haccepts : ∀ result, accepts result → p result) {checks : List Check}
    {result : Except Fault α} (h : DecidedBy passes refuses accepts checks result) : p result := by
  induction h with
  | refused _ refusal => exact hrefuses _ _ refusal
  | next _ _ ih => exact ih
  | accepted h => exact haccepts _ h

/-- Without octets of the key for digests, a code is neither refused nor accepted, although the
token is read. -/
theorem verify_undecided_surrogateKey :
    let config := resetConfig (some [CodePoint.ofNat 0xD800])
    let demand := resetDemand "1234"
    config.decoded demand resetToken 50 = .ok resetClaims
      ∧ config.verify demand resetToken 50 = .error (.ofKind .encoding)
      ∧ ¬ DecidedBy (Passes config demand resetToken 50) IsRefusal
          (Accepts config demand resetToken 50) Check.order
          (config.verify demand resetToken 50) := by
  intro config demand
  have hread : config.decoded demand resetToken 50 = .ok resetClaims :=
    ok_of_toOption (by decide +kernel)
  have hverify : config.verify demand resetToken 50 = .error (.ofKind .encoding) := by
    rw [verify_of_decoded (by rintro ⟨⟩) hread]
    rfl
  refine ⟨hread, hverify, fun hdecided => ?_⟩
  refine hdecided.holds (p := (· ≠ .error (.ofKind .encoding))) ?_ ?_ hverify
  · rintro check result ⟨message, data, cause, rfl⟩ heq
    cases heq
  · rintro result ⟨claims, accepted, -, -, rfl⟩ heq
    cases heq

end Verification

end Portcullis
