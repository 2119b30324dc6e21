/-
# What a verification token raises

A token that is not accepted is refused, with two exceptions: the token cannot be checked at all
(`Unreadable`), or it passes every other check and the code cannot be held against the digest in it
(`Incomparable`).  Then another fault is raised (`Raises`).

**Main statement.**  `raises_verify_iff`.
-/
import Portcullis.Proofs.Verification.Accepted
import Portcullis.Proofs.Verification.Faults

namespace Portcullis

/-! ## 1. Faults that are no refusals -/

/-- A result is a fault, and not a refusal. -/
def Raises {α : Type} (x : Except Fault α) (fault : Fault) : Prop :=
  x = .error fault ∧ fault.isWeb = false

section Raises

variable {α β : Type} {fault : Fault}

theorem not_raises_ok (a : α) : ¬ Raises (.ok a : Except Fault α) fault := by
  rintro ⟨h, -⟩
  cases h

theorem not_raises_of_isWeb {refusal : Fault} (hweb : refusal.isWeb = true) :
    ¬ Raises (.error refusal : Except Fault α) fault := by
  rintro ⟨h, hno⟩
  obtain rfl := Except.error.inj h
  exact absurd (hweb.symm.trans hno) (by decide)

/-- Two steps raise what the first raises, or what the second raises after it. -/
theorem raises_bind_iff {x : Except Fault α} {f : α → Except Fault β} :
    Raises (x >>= f) fault ↔ Raises x fault ∨ ∃ a, x = .ok a ∧ Raises (f a) fault := by
  cases x with
  | error e =>
    refine ⟨fun h => Or.inl ⟨congrArg Except.error (Except.error.inj h.1), h.2⟩, ?_⟩
    rintro (⟨h, hno⟩ | ⟨a, h, -⟩)
    · exact ⟨congrArg Except.error (Except.error.inj h), hno⟩
    · cases h
  | ok a =>
    refine ⟨fun h => Or.inr ⟨a, rfl, h⟩, ?_⟩
    rintro (h | ⟨b, hb, h⟩)
    · exact absurd h (not_raises_ok a)
    · obtain rfl := Except.ok.inj hb
      exact h

end Raises

namespace Verification

open Token

/-- A refusal of a check is not raised. -/
theorem IsRefusal.not_raises {α : Type} {check : Check} {x : Except Fault α}
    (h : IsRefusal check x) (fault : Fault) : ¬ Raises x fault := by
  obtain ⟨message, data, cause, rfl⟩ := h
  exact not_raises_of_isWeb rfl

/-! ## 2. Tokens that cannot be checked -/

/-- A token cannot be checked: it holds a lone surrogate, or it names the algorithm of verification
tokens and the secret cannot be used with it. -/
inductive Unreadable (config : Verification) (token : Text) : Fault → Prop
  | token (h : ¬ Text.Whole token) : Unreadable config token (.ofKind .encoding)
  | secret {found : Segments} {fault : Fault} (whole : Text.Whole token)
      (segments : Segments.read token = .ok found)
      (named : Members.get? "alg" found.header = some (.text algorithm))
      (unusable : secretBytes config.secret = .error fault) : Unreadable config token fault

/-- What cannot be checked is what the algorithm and the secret do not allow to check. -/
theorem unreadable_iff (config : Verification) (token : Text) (fault : Fault) :
    Unreadable config token fault ↔ Uncheckable algorithm config.secret token fault := by
  constructor
  · intro h
    cases h with
    | token hno => exact .token hno
    | secret whole segments named unusable => exact .secret whole segments named unusable
  · intro h
    cases h with
    | token hno => exact .token hno
    | secret whole segments named unusable => exact .secret whole segments named unusable

theorem Unreadable.isFault {config : Verification} {token : Text} {fault : Fault}
    (h : Unreadable config token fault) :
    fault.isWeb = false ∧ ∀ flaw, fault ≠ .token flaw :=
  have hkey := ((unreadable_iff config token fault).mp h).ofKey
  ⟨hkey.isWeb, hkey.ne_token⟩

/-- What cannot be checked is not read. -/
theorem decoded_of_unreadable {config : Verification} {token : Text} {fault : Fault}
    (h : Unreadable config token fault) (demand : Demand) (now : Instant) :
    config.decoded demand token now = .error fault := by
  have hhash : Algorithm.ofName? algorithm = some (.hmac .sha256) := rfl
  exact read_of_uncheckable hhash ((unreadable_iff config token fault).mp h) _ now

/-- A token is read, has a flaw, or cannot be checked. -/
theorem decoded_cases (config : Verification) (demand : Demand) (token : Text) (now : Instant) :
    (∃ claims, config.decoded demand token now = .ok claims)
      ∨ (∃ flaw, config.decoded demand token now = .error (.token flaw))
      ∨ ∃ fault, Unreadable config token fault := by
  have hhash : Algorithm.ofName? algorithm = some (.hmac .sha256) := rfl
  simp only [unreadable_iff]
  exact read_cases hhash config.secret token (config.expectations demand) now

/-- Reading raises what a token that cannot be checked leads to. -/
theorem raises_readToken_iff {config : Verification} {demand : Demand} {token : Text}
    {now : Instant} {fault : Fault} :
    Raises (config.readToken demand token now) fault ↔ Unreadable config token fault := by
  have hunread : ∀ {raised}, Unreadable config token raised →
      config.readToken demand token now = .error raised := fun h =>
    readToken_of_fault h.isFault.2 (decoded_of_unreadable h demand now)
  constructor
  · intro h
    rcases decoded_cases config demand token now with
      ⟨claims, hok⟩ | ⟨flaw, hflaw⟩ | ⟨raised, hunreadable⟩
    · rw [readToken_of_decoded hok] at h
      exact absurd h (not_raises_ok claims)
    · rw [readToken_of_flaw hflaw] at h
      exact absurd h (not_raises_of_isWeb rfl)
    · rw [hunread hunreadable] at h
      rwa [Except.error.inj h.1] at hunreadable
  · exact fun h => ⟨hunread h, h.isFault.1⟩

/-! ## 3. Codes that cannot be compared -/

/-- A code that is presented cannot be held against the digest in the claims: there are no octets to
make a digest of, or the one in the claims is not ASCII. -/
inductive Incomparable (config : Verification) (demand : Demand) (claims : Members) : Fault → Prop
  | octets {code digest : Text} (presents : Presents demand code)
      (bound : claims.get? "otp" = some (.text digest))
      (h : ¬ (Text.Whole config.codeKey ∧ Text.Whole code)) :
      Incomparable config demand claims (.ofKind .encoding)
  | digest {code digest : Text} (presents : Presents demand code)
      (bound : claims.get? "otp" = some (.text digest))
      (whole : Text.Whole config.codeKey ∧ Text.Whole code) (h : ¬ Text.Ascii digest) :
      Incomparable config demand claims (.ofKind .type)

/-- A digest is made of whole texts. -/
theorem codeDigest_cases (code key : Text) :
    ((Text.Whole key ∧ Text.Whole code) ∧ ∃ digest, codeDigest code key = .ok digest)
      ∨ (¬ (Text.Whole key ∧ Text.Whole code)
        ∧ codeDigest code key = .error (.ofKind .encoding)) := by
  rw [codeDigest]
  cases hkey : key.utf8? with
  | none => exact Or.inr ⟨fun h => (Text.utf8?_eq_none_iff key).mp hkey h.1, rfl⟩
  | some k =>
    cases hcode : code.utf8? with
    | none => exact Or.inr ⟨fun h => (Text.utf8?_eq_none_iff code).mp hcode h.2, rfl⟩
    | some octets =>
      exact Or.inl ⟨⟨((Text.utf8?_eq_some_iff key k).mp hkey).1,
        ((Text.utf8?_eq_some_iff code octets).mp hcode).1⟩, _, rfl⟩

/-- The check of the code raises what a code that cannot be compared leads to. -/
theorem raises_checkCode_iff {config : Verification} {demand : Demand} {claims : Members}
    {fault : Fault} : Raises (config.checkCode demand (claims.getD "otp")) fault
      ↔ Incomparable config demand claims fault := by
  -- What is compared is there in either direction: a code that is presented, and a text.
  constructor
  · intro h
    rw [checkCode] at h
    split at h
    · exact absurd h (not_raises_ok false)
    next code hcode =>
    split at h
    case h_2 => exact absurd h (not_raises_of_isWeb rfl)
    next digest hbound =>
    have hpresents := (givenCode_eq_some_iff demand code).mp hcode
    have hclaim := Members.get?_of_getD hbound rfl
    rcases codeDigest_cases code config.codeKey with ⟨hwhole, expected, hok⟩ | ⟨hno, herror⟩
    case inr =>
      rw [herror] at h
      obtain rfl := Except.error.inj h.1
      exact .octets hpresents hclaim hno
    rw [hok, ok_bind] at h
    split at h
    · next hascii =>
      obtain rfl := Except.error.inj h.1
      refine .digest hpresents hclaim hwhole fun hall => ?_
      rw [(Text.isAscii_iff digest).mpr hall] at hascii
      cases hascii
    split at h
    · exact absurd h (not_raises_ok true)
    · exact absurd h (not_raises_of_isWeb rfl)
  · have hcompared : ∀ {code digest : Text}, Presents demand code →
        claims.get? "otp" = some (.text digest) →
        config.checkCode demand (claims.getD "otp") = (do
          let expected ← codeDigest code config.codeKey
          if !digest.isAscii then .error (.ofKind .type)
          else if digest = expected then return true
          else .error (mismatch "Verification OTP mismatch" [])) := by
      intro code digest hpresents hclaim
      rw [checkCode, (givenCode_eq_some_iff demand code).mpr hpresents, Members.getD, hclaim]
      rfl
    intro h
    cases h with
    | @octets code digest presents bound hno =>
      rcases codeDigest_cases code config.codeKey with ⟨hwhole, -⟩ | ⟨-, herror⟩
      · exact absurd hwhole hno
      · rw [hcompared presents bound, herror]
        exact ⟨rfl, rfl⟩
    | @digest code digest presents bound whole hno =>
      rcases codeDigest_cases code config.codeKey with ⟨-, expected, hok⟩ | ⟨hnot, -⟩
      · have hascii : digest.isAscii = false :=
          (Bool.not_eq_true _).mp (mt (Text.isAscii_iff digest).mp hno)
        rw [hcompared presents bound, hok, ok_bind, hascii]
        exact ⟨rfl, rfl⟩
      · exact absurd whole hnot

/-! ## 4. The decision -/

/-- The claims of a token raise what the code leads to, if they meet what every other check asks. -/
theorem raises_judge_iff {config : Verification} {demand : Demand} {claims : Members}
    (haction : demand.action = .null ∨ ∃ t, demand.action = .text t ∧ t.isBlank = false)
    {fault : Fault} : Raises (config.judge demand claims) fault
      ↔ (∀ check, check ≠ .code → Asks config demand claims check)
        ∧ Incomparable config demand claims fault := by
  rw [judge, ← raises_checkCode_iff]
  rcases readIdentity_cases claims with
    ⟨action, identifier, ⟨hact, hactNe⟩, ⟨hjti, hjtiNe⟩, hok⟩ | ⟨hno, hrefusal⟩
  case inr =>
    refine iff_of_false ((hrefusal.bind _).not_raises fault) ?_
    exact fun h => hno (h.1 .identity (by decide))
  rw [hok, ok_bind]
  rcases checkAction_cases config haction hact with ⟨hfits, hok⟩ | ⟨hno, hrefusal⟩
  case inr =>
    refine iff_of_false ((hrefusal.bind _).not_raises fault) ?_
    exact fun h => hno (h.1 .action (by decide))
  simp only [hok, ok_bind]
  rcases checkSubject_cases config demand claims with
    ⟨hpresent, hsubject, hok⟩ | ⟨hno, hrefusal⟩ | ⟨-, hno, hrefusal⟩
  case inr.inl =>
    refine iff_of_false ((hrefusal.bind _).not_raises fault) ?_
    exact fun h => hno (h.1 .subjectPresent (by decide))
  case inr.inr =>
    refine iff_of_false ((hrefusal.bind _).not_raises fault) ?_
    exact fun h => hno (h.1 .subject (by decide))
  have hasks : ∀ check, check ≠ .code → Asks config demand claims check :=
    asks_others ⟨⟨action, hact, hactNe⟩, identifier, hjti, hjtiNe⟩ hfits hpresent hsubject
  rw [hok, ok_bind, raises_bind_iff, and_iff_right hasks, or_iff_left_iff_imp]
  rintro ⟨verified, -, h⟩
  exact absurd h (not_raises_ok _)

/-- **Verifying raises nothing else** than what a token that cannot be checked leads to, or a code
that cannot be compared. -/
theorem raises_verify_iff {config : Verification} {demand : Demand} {token : Text} {now : Instant}
    (haction : demand.action = .null ∨ ∃ t, demand.action = .text t ∧ t.isBlank = false)
    {fault : Fault} : Raises (config.verify demand token now) fault
      ↔ Passes config demand token now .codePresent ∧ (Unreadable config token fault
        ∨ ∃ claims, config.decoded demand token now = .ok claims
          ∧ (∀ check, check ≠ .code → Asks config demand claims check)
          ∧ Incomparable config demand claims fault) := by
  rw [passes_codePresent_iff, verify]
  cases demand.requireCode && (givenCode demand).isNone with
  | true =>
    refine iff_of_false (not_raises_of_isWeb rfl) ?_
    rintro ⟨⟨⟩, -⟩
  | false =>
    have hclaims : ∀ {claims}, config.readToken demand token now = .ok claims
        ↔ config.decoded demand token now = .ok claims := ⟨readToken_ok, readToken_of_decoded⟩
    rw [if_neg Bool.false_ne_true, and_iff_right rfl, raises_bind_iff, raises_readToken_iff]
    refine or_congr_right (exists_congr fun claims => ?_)
    rw [hclaims]
    exact and_congr_right' (raises_judge_iff haction)

end Verification

end Portcullis
