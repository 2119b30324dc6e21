/-
# Claims of the right kinds

Where the registered claims are of the right kinds, if they are there at all (`WellTyped`), a token
is refused for one of four things, of which the first that is wrong counts: a claim that is required
is missing or the time of the token has not begun (`Begun`), its time is over, it is for another
audience.  Before that it is looked whether the token is signed under the key (`SignedUnder`).

**Main statements.**  `WellTyped.checkClaims_cases` and `authenticate_cases`.
-/
import Portcullis.Proofs.Token.Formed

namespace Portcullis.Token

/-! ## 1. Kinds of claims -/

/-- The registered claims are of the right kinds, if they are there: the times are integers, the
audience is a text or a list of texts and not empty, the subject and the identifier are texts. -/
structure WellTyped (claims : Members) : Prop where
  times : ∀ name ∈ (["iat", "nbf", "exp"] : List Text), ∀ v, claims.get? name = some v →
    ∃ i, v = .int i
  audience : ∀ v, claims.get? "aud" = some v →
    (∃ t, v = .text t ∧ t ≠ []) ∨ ∃ ts : List Text, v = .list (ts.map .text) ∧ ts ≠ []
  texts : ∀ name ∈ (["sub", "jti"] : List Text), ∀ v, claims.get? name = some v → ∃ t, v = .text t

/-- The required claims are there, and the token is not before its time. -/
structure Begun (claims : Members) (required : List Text) (now : Rat) : Prop where
  present : ∀ name ∈ required, Present claims name
  issuedAt : ∀ i : Int, claims.get? "iat" = some (.int i) → i ≤ now
  notBefore : ∀ i : Int, claims.get? "nbf" = some (.int i) → i ≤ now

/-- The time of the token is not over. -/
def Unexpired (claims : Members) (now : Rat) : Prop :=
  ∃ stop : Int, claims.get? "exp" = some (.int stop) ∧ now < stop

/-! ## 2. Checking them -/

theorem checkPresent_cases (claims : Members) (names : List Text) :
    ((∀ name ∈ names, Present claims name) ∧ checkPresent claims names = .ok ())
      ∨ (¬ (∀ name ∈ names, Present claims name)
        ∧ ∃ name, checkPresent claims names = .error (.claimAbsent name)) := by
  cases hcheck : checkPresent claims names with
  | ok => exact Or.inl ⟨present_of_checkPresent hcheck, rfl⟩
  | error flaw =>
    obtain ⟨name, rfl⟩ := failsOnly_checkPresent claims names flaw hcheck
    refine Or.inr ⟨fun hpresent => ?_, name, rfl⟩
    cases hcheck.symm.trans (checkPresent_of_present hpresent)

/-- A time that is an integer passes, or is one that is refused. -/
theorem checkTime_of_integer {name : Text} {claims : Members}
    (h : ∀ v, claims.get? name = some v → ∃ i, v = .int i) (kind refused : Flaw)
    (refuses : Int → Bool) :
    ((∀ i, claims.get? name = some (.int i) → refuses i = false)
        ∧ checkTime name kind refused refuses claims = .ok ())
      ∨ (∃ i, claims.get? name = some (.int i) ∧ refuses i = true)
        ∧ checkTime name kind refused refuses claims = .error refused := by
  rw [checkTime]
  cases hv : claims.get? name with
  | none => exact Or.inl ⟨by simp, rfl⟩
  | some v =>
    obtain ⟨i, rfl⟩ := h v hv
    cases hrefuses : refuses i with
    | false => exact Or.inl ⟨by simp [hrefuses], by simp [integerOf?, hrefuses]⟩
    | true => exact Or.inr ⟨⟨i, rfl, hrefuses⟩, by simp [integerOf?, hrefuses]⟩

theorem textItems?_map_text (ts : List Text) : textItems? (ts.map .text) = some ts := by
  induction ts with
  | nil => rfl
  | cons t ts ih => simp [textItems?, ih]

section WellTyped

variable {claims : Members} (h : WellTyped claims)

include h

/-- An audience that is there is the expected one, or another. -/
theorem WellTyped.checkAudience_cases (hpresent : Present claims "aud") (audience : Text) :
    (Names claims audience ∧ checkAudience (some audience) claims = .ok ())
      ∨ (¬ Names claims audience
        ∧ checkAudience (some audience) claims = .error .audienceWrong) := by
  obtain ⟨v, hv, -⟩ := hpresent
  have hclaim : claims.getD "aud" = v := by rw [Members.getD, hv, Option.getD_some]
  obtain ⟨named, htruthy, hnamed, hnames⟩ : ∃ named, v.isTruthy = true ∧ audiencesOf? v = some named
      ∧ (Names claims audience ↔ audience ∈ named) := by
    rcases h.audience v hv with ⟨t, rfl, hne⟩ | ⟨ts, rfl, hne⟩
    · exact ⟨[t], by simp [Json.isTruthy, hne], rfl, by simp [Names, hv, eq_comm]⟩
    · exact ⟨ts, by simp [Json.isTruthy, hne], textItems?_map_text ts, by simp [Names, hv]⟩
  simp only [checkAudience, hclaim, htruthy, hnamed, if_true]
  rw [hnames]
  by_cases hmem : audience ∈ named
  · exact Or.inl ⟨hmem, if_pos (List.contains_iff_mem.mpr hmem)⟩
  · exact Or.inr ⟨hmem, if_neg (mt List.contains_iff_mem.mp hmem)⟩

theorem WellTyped.checkText_eq (name : Text) (hname : name ∈ (["sub", "jti"] : List Text))
    (flaw : Flaw) : checkText name flaw claims = .ok () := by
  refine checkText_of ?_
  cases hv : claims.get? name with
  | none => exact Or.inl rfl
  | some v =>
    obtain ⟨t, rfl⟩ := h.texts name hname v hv
    exact Or.inr ⟨t, rfl⟩

/-- Of claims of the right kinds only the audience is left to check when they are in time. -/
theorem WellTyped.checkParties_eq {expect : Expectations} (hissuer : expect.issuer = none)
    {audience : Text} (haudience : expect.audience = some (some audience)) :
    checkParties expect claims = checkAudience (some audience) claims := by
  rw [checkParties, hissuer, haudience, checkIssuer]
  simp only [ok_bind, h.checkText_eq "sub" (by simp), h.checkText_eq "jti" (by simp)]
  cases checkAudience (some audience) claims <;> rfl

/-- **Claims of the right kinds** are refused for the first thing that is wrong with them. -/
theorem WellTyped.checkClaims_cases {expect : Expectations} (hissuer : expect.issuer = none)
    {audience : Text} (haudience : expect.audience = some (some audience))
    (hexp : ("exp" : Text) ∈ expect.required) (haud : ("aud" : Text) ∈ expect.required)
    (now : Rat) :
    (¬ Begun claims expect.required now ∧ ∃ flaw : Flaw,
        (flaw.kind = .missingClaim ∨ flaw.kind = .immature)
          ∧ checkClaims expect now claims = .error flaw)
      ∨ Begun claims expect.required now
        ∧ ((¬ Unexpired claims now ∧ checkClaims expect now claims = .error .expired)
          ∨ Unexpired claims now
            ∧ ((¬ Names claims audience ∧ checkClaims expect now claims = .error .audienceWrong)
              ∨ (Names claims audience ∧ checkClaims expect now claims = .ok ()))) := by
  rw [checkClaims_eq, h.checkParties_eq hissuer haudience]
  rcases checkPresent_cases claims expect.required with ⟨hpresent, hok⟩ | ⟨hno, name, herror⟩
  case inr => exact Or.inl ⟨fun hb => hno hb.present, _, Or.inl rfl, by rw [herror]; rfl⟩
  rw [hok, ok_bind]
  rcases checkTime_of_integer (h.times "iat" (by simp)) .issuedAtKind .issuedLater
    (fun i => now < (i : Rat)) with ⟨hissued, hok⟩ | ⟨⟨i, hi, hlater⟩, herror⟩
  case inr =>
    refine Or.inl ⟨fun hb => ?_, _, Or.inr rfl, by rw [checkIssuedAt, herror]; rfl⟩
    exact absurd (hb.issuedAt i hi) (not_le.mpr (of_decide_eq_true hlater))
  rw [checkIssuedAt, hok, ok_bind]
  rcases checkTime_of_integer (h.times "nbf" (by simp)) .notBeforeKind .notYetValid
    (fun i => now < (i : Rat)) with ⟨hbegin, hok⟩ | ⟨⟨i, hi, hlater⟩, herror⟩
  case inr =>
    refine Or.inl ⟨fun hb => ?_, _, Or.inr rfl, by rw [checkNotBefore, herror]; rfl⟩
    exact absurd (hb.notBefore i hi) (not_le.mpr (of_decide_eq_true hlater))
  rw [checkNotBefore, hok, ok_bind]
  have hbegun : Begun claims expect.required now :=
    ⟨hpresent, fun i hi => not_lt.mp (of_decide_eq_false (hissued i hi)),
      fun i hi => not_lt.mp (of_decide_eq_false (hbegin i hi))⟩
  refine Or.inr ⟨hbegun, ?_⟩
  rcases checkTime_of_integer (h.times "exp" (by simp)) .expiryKind .expired
    (fun i => (i : Rat) ≤ now) with ⟨hend, hok⟩ | ⟨⟨i, hi, hover⟩, herror⟩
  case inr =>
    refine Or.inl ⟨?_, by rw [checkExpiry, herror]; rfl⟩
    rintro ⟨stop, hstop, hlt⟩
    obtain rfl : i = stop := by simpa using hi.symm.trans hstop
    exact absurd (of_decide_eq_true hover) (not_le.mpr hlt)
  rw [checkExpiry, hok, ok_bind]
  obtain ⟨v, hv, -⟩ := hpresent "exp" hexp
  obtain ⟨stop, rfl⟩ := h.times "exp" (by simp) v hv
  refine Or.inr ⟨⟨stop, hv, not_le.mp (of_decide_eq_false (hend stop hv))⟩, ?_⟩
  exact (h.checkAudience_cases (hpresent "aud" haud) audience).symm

end WellTyped

/-! ## 3. Signatures -/

/-- The header names the algorithm of the key, and the signature is made by that algorithm under the
secret of the key. -/
def SignedUnder (algorithm key : Text) (s : Segments) : Prop :=
  s.header.get? "alg" = some (.text algorithm)
    ∧ ∃ hash secret, Algorithm.ofName? algorithm = some (.hmac hash) ∧ key.utf8? = some secret
      ∧ s.signature = hash.hmac secret s.signed

theorem failsOnly_chooseAlgorithm (allowed : Text) (header : Members) :
    FailsOnly (·.kind = .algorithm) (chooseAlgorithm allowed header) := by
  unfold chooseAlgorithm
  split
  · exact failsOnly_error rfl
  · split
    · exact failsOnly_error rfl
    split
    · exact failsOnly_error rfl
    · exact failsOnly_ok _
  · exact failsOnly_error rfl

section Signature

variable {algorithm key token : Text} {hash : Hash} {secret : Bytes} {s : Segments}

/-- **A token that is formed of something** is signed under a shared secret, or is refused for its
algorithm or its signature. -/
theorem authenticate_cases (ha : Algorithm.ofName? algorithm = some (.hmac hash))
    (hsecret : secretBytes key = .ok secret) (hwhole : token.Whole)
    (hread : Segments.read token = .ok s) :
    (SignedUnder algorithm key s ∧ authenticate algorithm key token = .ok s)
      ∨ (¬ SignedUnder algorithm key s ∧ ∃ flaw : Flaw,
        (flaw.kind = .algorithm ∨ flaw.kind = .signature)
          ∧ authenticate algorithm key token = .error (.token flaw)) := by
  rw [authenticate, (Text.any_isSurrogate_iff token).mpr hwhole, hread]
  simp only [Bool.false_eq_true, if_false, liftFlaw, ok_bind]
  cases hchosen : chooseAlgorithm algorithm s.header with
  | error flaw =>
    have hkind := failsOnly_chooseAlgorithm algorithm s.header flaw hchosen
    refine Or.inr ⟨fun hsigned => ?_, flaw, Or.inl hkind, rfl⟩
    cases hchosen.symm.trans (chooseAlgorithm_of_named hsigned.1 ha)
  | ok a =>
    obtain ⟨hnamed, hknown⟩ := chooseAlgorithm_ok hchosen
    obtain rfl : a = .hmac hash := Option.some.inj (hknown.symm.trans ha)
    have hverify : (Algorithm.hmac hash).verify key s.signed s.signature
        = .ok (hash.hmac secret s.signed == s.signature) := by
      rw [Algorithm.verify, hsecret]
      rfl
    have hsigned : SignedUnder algorithm key s ↔ s.signature = hash.hmac secret s.signed := by
      constructor
      · rintro ⟨-, hash', secret', hhash, hoctets, hmac⟩
        obtain rfl : hash = hash' := by simpa using ha.symm.trans hhash
        obtain rfl : secret = secret' := by
          simpa using (secretBytes_ok hsecret).1.symm.trans hoctets
        exact hmac
      · exact fun hmac => ⟨hnamed, hash, secret, ha, (secretBytes_ok hsecret).1, hmac⟩
    rw [hsigned]
    simp only [ok_bind, hverify, beq_iff_eq]
    by_cases hmac : hash.hmac secret s.signed = s.signature
    · exact Or.inl ⟨hmac.symm, if_pos hmac⟩
    · exact Or.inr ⟨Ne.symm hmac, .signatureWrong, Or.inr rfl, if_neg hmac⟩

/-- A token whose segments have a flaw is refused for it. -/
theorem authenticate_of_segments_error (hwhole : token.Whole) {flaw : Flaw}
    (h : Segments.read token = .error flaw) :
    authenticate algorithm key token = .error (.token flaw) := by
  rw [authenticate, (Text.any_isSurrogate_iff token).mpr hwhole, h]
  rfl

theorem read_of_authenticate_error {fault : Fault} (expect : Expectations) (now : Rat)
    (h : authenticate algorithm key token = .error fault) :
    read algorithm key expect now token = .error fault := by
  rw [read, h]
  rfl

end Signature

/-! ## 4. Payloads -/

/-- The payload of a token is an object of claims, or has a flaw of decoding. -/
theorem Formed.readClaims_cases {token : Text} {s : Segments} (h : Formed token s) :
    (∃ claims, Carries token claims ∧ readClaims s.payload = .ok claims)
      ∨ ((∀ claims, ¬ Carries token claims)
        ∧ ∃ flaw : Flaw, flaw.kind = .decoding ∧ readClaims s.payload = .error flaw) := by
  cases hclaims : readClaims s.payload with
  | ok claims => exact Or.inl ⟨claims, ⟨s, h, readClaims_ok hclaims⟩, rfl⟩
  | error flaw =>
    refine Or.inr ⟨?_, flaw, ?_, rfl⟩
    · rintro claims ⟨s', hformed, hobject⟩
      obtain rfl := h.unique hformed
      rw [readClaims, hobject] at hclaims
      cases hclaims
    · rw [readClaims] at hclaims
      split at hclaims
      · obtain rfl := Except.error.inj hclaims
        rfl
      · cases hclaims
      · obtain rfl := Except.error.inj hclaims
        rfl

section Read

variable {algorithm key token : Text} {s : Segments} {expect : Expectations} {now : Rat}

theorem read_of_readClaims_error (hsigned : authenticate algorithm key token = .ok s) {flaw : Flaw}
    (h : readClaims s.payload = .error flaw) :
    read algorithm key expect now token = .error (.token flaw) := by
  rw [read, hsigned, ok_bind, h]
  rfl

theorem read_of_checkClaims_error (hsigned : authenticate algorithm key token = .ok s)
    {claims : Members} (hclaims : readClaims s.payload = .ok claims) {flaw : Flaw}
    (h : checkClaims expect now claims = .error flaw) :
    read algorithm key expect now token = .error (.token flaw) := by
  rw [read, hsigned, ok_bind, hclaims, liftFlaw, ok_bind, h]
  rfl

theorem read_of_checkClaims (hsigned : authenticate algorithm key token = .ok s)
    {claims : Members} (hclaims : readClaims s.payload = .ok claims)
    (h : checkClaims expect now claims = .ok ()) :
    read algorithm key expect now token = .ok claims := by
  rw [read, hsigned, ok_bind, hclaims, liftFlaw, ok_bind, h]
  rfl

end Read

end Portcullis.Token
