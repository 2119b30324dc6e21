/-
# The lifetime of claims

Claims say from when to when they hold: from the time of issue on, or from the beginning if that is
later, up to the end, which is excluded (`Lifetime`).  Of all the checks only those of the times
look at the clock, so claims that pass at one time pass at exactly the times of their lifetime; and
claims that are refused because their time is over are refused for that ever after.

What is read of a token before its claims are checked does not depend on the clock at all
(`contents`), so the same is true of tokens.

**Main statements.**  `Lifetime.inTime_iff`, `checkClaims_ok_iff`, `read_ok_iff` and
`read_of_expired`.
-/
import Portcullis.Instant
import Portcullis.Proofs.Token.Claims

namespace Portcullis.Token

/-! ## 1. From when to when -/

/-- A claim is there and counts as an integer. -/
def CountsAs (claims : Members) (name : Text) (i : Int) : Prop :=
  ∃ v, claims.get? name = some v ∧ integerOf? v = some i

/-- The claims hold from a second on, which is that of their issue or of their beginning if there is
one and it is later, and they hold up to a second. -/
structure Lifetime (claims : Members) (start stop : Int) : Prop where
  start : ∃ issued, CountsAs claims "iat" issued
    ∧ ((claims.get? "nbf" = none ∧ start = issued)
      ∨ ∃ beginning, CountsAs claims "nbf" beginning ∧ start = max issued beginning)
  stop : CountsAs claims "exp" stop

/-- What is asked of a time that may be absent is asked of what it counts as. -/
theorem CountsAs.forall_iff {claims : Members} {name : Text} {i : Int}
    (h : CountsAs claims name i) (p : Int → Prop) :
    (∀ v, claims.get? name = some v → ∃ j : Int, integerOf? v = some j ∧ p j) ↔ p i := by
  obtain ⟨v, hv, hi⟩ := h
  constructor
  · intro hall
    obtain ⟨j, hj, hp⟩ := hall v hv
    rwa [Option.some.inj (hi.symm.trans hj)]
  · intro hp w hw
    obtain rfl := Option.some.inj (hv.symm.trans hw)
    exact ⟨i, hi, hp⟩

section InTime

variable {claims : Members} {required : List Text} {start stop : Int} {now : Rat}

/-- A claim that is present and passes as a time counts as an integer. -/
theorem countsAs_of_present {name : Text} (hpresent : Present claims name) {p : Int → Prop}
    (htime : ∀ v, claims.get? name = some v → ∃ i : Int, integerOf? v = some i ∧ p i) :
    ∃ i, CountsAs claims name i := by
  obtain ⟨v, hv, -⟩ := hpresent
  obtain ⟨i, hi, -⟩ := htime v hv
  exact ⟨i, v, hv, hi⟩

/-- Claims that are in time at some time have a lifetime. -/
theorem InTime.exists_lifetime (h : InTime claims required now)
    (hissued : ("iat" : Text) ∈ required) (hend : ("exp" : Text) ∈ required) :
    ∃ start stop, Lifetime claims start stop := by
  obtain ⟨issued, hissued⟩ := countsAs_of_present (h.present _ hissued) h.issuedAt
  obtain ⟨stop, hstop⟩ := countsAs_of_present (h.present _ hend) h.expiry
  cases hbegin : claims.get? "nbf" with
  | none => exact ⟨issued, stop, ⟨issued, hissued, Or.inl ⟨hbegin, rfl⟩⟩, hstop⟩
  | some v =>
    obtain ⟨beginning, hv, -⟩ := h.notBefore v hbegin
    exact ⟨max issued beginning, stop,
      ⟨issued, hissued, Or.inr ⟨beginning, ⟨v, hbegin, hv⟩, rfl⟩⟩, hstop⟩

/-- **Claims are in time** exactly through their lifetime. -/
theorem Lifetime.inTime_iff (h : Lifetime claims start stop)
    (hpresent : ∀ name ∈ required, Present claims name) :
    InTime claims required now ↔ start ≤ now ∧ now < stop := by
  obtain ⟨⟨issued, hissued, hstart⟩, hstop⟩ := h
  have hparts : InTime claims required now ↔ ((issued : Rat) ≤ now
      ∧ ∀ v, claims.get? "nbf" = some v → ∃ i : Int, integerOf? v = some i ∧ (i : Rat) ≤ now)
      ∧ now < stop := by
    constructor
    · intro hin
      exact ⟨⟨(hissued.forall_iff fun i => (i : Rat) ≤ now).mp hin.issuedAt, hin.notBefore⟩,
        (hstop.forall_iff fun i => now < (i : Rat)).mp hin.expiry⟩
    · rintro ⟨⟨hle, hbegin⟩, hlt⟩
      exact ⟨hpresent, (hissued.forall_iff fun i => (i : Rat) ≤ now).mpr hle, hbegin,
        (hstop.forall_iff fun i => now < (i : Rat)).mpr hlt⟩
  rw [hparts]
  refine and_congr_left' ?_
  rcases hstart with ⟨hnone, rfl⟩ | ⟨beginning, hbeginning, rfl⟩
  · simp [hnone]
  · rw [hbeginning.forall_iff fun i => (i : Rat) ≤ now, Int.cast_max, max_le_iff]

end InTime

/-! ## 2. Checking at different times -/

/-- The checks that come after those of the times and do not look at the clock. -/
def checkParties (expect : Expectations) (claims : Members) : Except Flaw Unit := do
  checkIssuer expect.issuer claims
  match expect.audience with
  | none => pure ()
  | some audience => checkAudience audience claims
  checkText "sub" .subjectKind claims
  checkText "jti" .identifierKind claims

theorem checkClaims_eq (expect : Expectations) (now : Rat) (claims : Members) :
    checkClaims expect now claims = (do
      checkPresent claims expect.required
      checkIssuedAt now claims
      checkNotBefore now claims
      checkExpiry now claims
      checkParties expect claims) := rfl

/-- A time passes, or is one that is refused, or no time. -/
theorem checkTime_cases (name : Text) (kind refused : Flaw) (refuses : Int → Bool)
    (claims : Members) :
    (checkTime name kind refused refuses claims = .ok ()
        ∧ ∀ v, claims.get? name = some v → ∃ i, integerOf? v = some i ∧ refuses i = false)
      ∨ (checkTime name kind refused refuses claims = .error refused
        ∧ ∃ i, CountsAs claims name i ∧ refuses i = true)
      ∨ checkTime name kind refused refuses claims = .error kind := by
  rw [checkTime]
  cases hv : claims.get? name with
  | none => exact Or.inl ⟨rfl, by simp⟩
  | some v =>
    cases hi : integerOf? v with
    | none => exact Or.inr (Or.inr (by simp [hi]))
    | some i =>
      cases hrefuses : refuses i with
      | false => exact Or.inl ⟨by simp [hi, hrefuses], by simp [hi, hrefuses]⟩
      | true => exact Or.inr (Or.inl ⟨by simp [hi, hrefuses], i, ⟨v, hv, hi⟩, hrefuses⟩)

theorem failsOnly_checkPresent (claims : Members) (names : List Text) :
    FailsOnly (fun flaw => ∃ name, flaw = .claimAbsent name) (checkPresent claims names) := by
  induction names with
  | nil => exact failsOnly_ok _
  | cons name rest ih =>
    rw [checkPresent]
    split
    · exact failsOnly_error ⟨name, rfl⟩
    · exact ih

theorem failsOnly_checkIssuer (expected : Option Text) (claims : Members) :
    FailsOnly (· ≠ .expired) (checkIssuer expected claims) := by
  unfold checkIssuer
  split
  · exact failsOnly_ok _
  split
  · exact failsOnly_error (by simp)
  · split
    · exact failsOnly_ok _
    · exact failsOnly_error (by simp)
  · exact failsOnly_error (by simp)

theorem failsOnly_checkAudience (expected : Option Text) (claims : Members) :
    FailsOnly (· ≠ .expired) (checkAudience expected claims) := by
  unfold checkAudience
  simp only
  split
  · split
    · exact failsOnly_error (by simp)
    · exact failsOnly_ok _
  split
  · split
    · exact failsOnly_error (by simp)
    · split
      · exact failsOnly_ok _
      · exact failsOnly_error (by simp)
  · exact failsOnly_error (by simp)

theorem failsOnly_checkText (name : Text) {flaw : Flaw} (hflaw : flaw ≠ .expired)
    (claims : Members) : FailsOnly (· ≠ .expired) (checkText name flaw claims) := by
  unfold checkText
  split
  · exact failsOnly_ok _
  · exact failsOnly_ok _
  · exact failsOnly_error hflaw

/-- What the parties are refused for is not that the time is over. -/
theorem failsOnly_checkParties (expect : Expectations) (claims : Members) :
    FailsOnly (· ≠ .expired) (checkParties expect claims) := by
  have htexts : FailsOnly (· ≠ .expired) (do
      checkText "sub" .subjectKind claims
      checkText "jti" .identifierKind claims) :=
    (failsOnly_checkText _ (by simp) claims).bind fun _ _ => failsOnly_checkText _ (by simp) claims
  refine (failsOnly_checkIssuer expect.issuer claims).bind fun _ _ => ?_
  cases expect.audience with
  | none => exact htexts
  | some audience => exact (failsOnly_checkAudience audience claims).bind fun _ _ => htexts

section Claims

variable {expect : Expectations} {now later : Rat} {claims : Members}

/-- Claims that are in time are judged by the checks that do not look at the clock. -/
theorem checkClaims_of_times (h : InTime claims expect.required now) :
    checkClaims expect now claims = checkParties expect claims := by
  have hissued : checkIssuedAt now claims = .ok () := checkTime_of_le h.issuedAt
  have hbegin : checkNotBefore now claims = .ok () := checkTime_of_le h.notBefore
  have hend : checkExpiry now claims = .ok () := checkTime_of fun v hv => by
    obtain ⟨i, hi, hlt⟩ := h.expiry v hv
    exact ⟨i, hi, decide_eq_false (not_le.mpr hlt)⟩
  rw [checkClaims_eq, checkPresent_of_present h.present, hissued, hbegin, hend]
  rfl

/-- **Claims pass** if they are in time and pass the checks that do not look at the clock. -/
theorem checkClaims_ok_iff : checkClaims expect now claims = .ok ()
    ↔ InTime claims expect.required now ∧ checkParties expect claims = .ok () := by
  constructor
  · intro h
    have hin := (inTime_of_checkClaims h).1
    exact ⟨hin, (checkClaims_of_times hin).symm.trans h⟩
  · rintro ⟨hin, hparties⟩
    exact (checkClaims_of_times hin).trans hparties

/-- **Claims are refused because their time is over** if everything that is checked before is as it
should be and their end has come. -/
theorem checkClaims_expired_iff : checkClaims expect now claims = .error .expired
    ↔ (∀ name ∈ expect.required, Present claims name)
      ∧ (∀ v, claims.get? "iat" = some v → ∃ i : Int, integerOf? v = some i ∧ i ≤ now)
      ∧ (∀ v, claims.get? "nbf" = some v → ∃ i : Int, integerOf? v = some i ∧ i ≤ now)
      ∧ ∃ stop : Int, CountsAs claims "exp" stop ∧ stop ≤ now := by
  constructor
  · intro h
    rw [checkClaims_eq] at h
    cases hpresent : checkPresent claims expect.required with
    | error flaw =>
      obtain ⟨name, rfl⟩ := failsOnly_checkPresent claims _ flaw hpresent
      rw [hpresent] at h
      cases h
    | ok =>
    rw [hpresent, ok_bind] at h
    rcases checkTime_cases "iat" .issuedAtKind .issuedLater (fun i => now < (i : Rat)) claims with
      ⟨hok, hissued⟩ | ⟨herror, -⟩ | herror
    case inr.inl => cases (congrArg (· >>= _) herror).symm.trans h
    case inr.inr => cases (congrArg (· >>= _) herror).symm.trans h
    rw [checkIssuedAt, hok, ok_bind] at h
    rcases checkTime_cases "nbf" .notBeforeKind .notYetValid (fun i => now < (i : Rat)) claims with
      ⟨hok, hbegin⟩ | ⟨herror, -⟩ | herror
    case inr.inl => cases (congrArg (· >>= _) herror).symm.trans h
    case inr.inr => cases (congrArg (· >>= _) herror).symm.trans h
    rw [checkNotBefore, hok, ok_bind] at h
    rcases checkTime_cases "exp" .expiryKind .expired (fun i => (i : Rat) ≤ now) claims with
      ⟨hok, -⟩ | ⟨-, hend⟩ | herror
    case inl =>
      rw [checkExpiry, hok, ok_bind] at h
      exact absurd rfl (failsOnly_checkParties expect claims _ h)
    case inr.inr => cases (congrArg (· >>= _) herror).symm.trans h
    refine ⟨present_of_checkPresent hpresent, ?_, ?_, by simpa using hend⟩
    · simpa using hissued
    · simpa using hbegin
  · rintro ⟨hpresent, hissued, hbegin, stop, ⟨v, hv, hcounts⟩, hle⟩
    exact checkClaims_of_expired hpresent hissued hbegin hv hcounts hle

/-- Claims whose time is over stay so. -/
theorem checkClaims_of_expired_before (h : checkClaims expect now claims = .error .expired)
    (hle : now ≤ later) : checkClaims expect later claims = .error .expired := by
  rw [checkClaims_expired_iff] at h ⊢
  obtain ⟨hpresent, hissued, hbegin, stop, hstop, hover⟩ := h
  refine ⟨hpresent, ?_, ?_, stop, hstop, hover.trans hle⟩
  · intro v hv
    obtain ⟨i, hi, hpast⟩ := hissued v hv
    exact ⟨i, hi, hpast.trans hle⟩
  · intro v hv
    obtain ⟨i, hi, hpast⟩ := hbegin v hv
    exact ⟨i, hi, hpast.trans hle⟩

end Claims

/-! ## 3. Reading at different times -/

/-- The claims that a token holds under a key, before any of them is checked. -/
def contents (algorithm key token : Text) : Except Fault Members := do
  let segments ← authenticate algorithm key token
  liftFlaw (readClaims segments.payload)

section Read

variable {algorithm key token : Text} {expect : Expectations} {now later : Rat} {claims : Members}

/-- A token is read by checking its contents. -/
theorem read_eq (algorithm key token : Text) (expect : Expectations) (now : Rat) :
    read algorithm key expect now token = (do
      let claims ← contents algorithm key token
      liftFlaw (checkClaims expect now claims)
      return claims) := by
  rw [read, contents, bind_assoc]

/-- **A token is read** if its contents pass their checks. -/
theorem read_ok_iff : read algorithm key expect now token = .ok claims
    ↔ contents algorithm key token = .ok claims ∧ checkClaims expect now claims = .ok () := by
  rw [read_eq]
  constructor
  · intro h
    obtain ⟨found, hfound, h⟩ := bind_eq_ok h
    obtain ⟨_, hcheck, h⟩ := bind_eq_ok h
    obtain rfl := Except.ok.inj h
    exact ⟨hfound, liftFlaw_ok hcheck⟩
  · rintro ⟨hcontents, hcheck⟩
    rw [hcontents, ok_bind, hcheck]
    rfl

/-- **A token whose time is over** stays so. -/
theorem read_of_expired (h : read algorithm key expect now token = .error (.token .expired))
    (hle : now ≤ later) : read algorithm key expect later token = .error (.token .expired) := by
  rw [read_eq] at h ⊢
  cases hcontents : contents algorithm key token with
  | error fault =>
    rw [hcontents] at h
    exact h
  | ok claims =>
    rw [hcontents, ok_bind] at h
    have hover : checkClaims expect now claims = .error .expired := by
      cases hcheck : checkClaims expect now claims with
      | ok _ =>
        rw [hcheck] at h
        cases h
      | error flaw =>
        rw [hcheck] at h
        cases h
        rfl
    rw [ok_bind, checkClaims_of_expired_before hover hle]
    rfl

end Read

end Portcullis.Token
