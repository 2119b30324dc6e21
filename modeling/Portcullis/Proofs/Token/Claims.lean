/-
# Claims that hold

The checks of claims are passed only by claims that hold (`Holds`): the required ones are present,
the time lies between the times of issue and beginning and the end, and the audience is among those
that are named.

**Main statements.**  `inTime_of_checkClaims` and `holds_of_checkClaims`; and the other way round
`checkClaims_of_inTime`, and `checkClaims_of_expired` for claims whose time is over.
-/
import Mathlib.Data.Rat.Cast.Order
import Portcullis.Proofs.Json.Structure
import Portcullis.Proofs.Token.Reading

namespace Portcullis.Token

/-! ## 1. The checks in turn -/

/-- A claim is there and not null. -/
def Present (claims : Members) (name : Text) : Prop :=
  ∃ v, claims.get? name = some v ∧ v.isNull = false

theorem present_of_checkPresent {claims : Members} {names : List Text}
    (h : checkPresent claims names = .ok ()) : ∀ name ∈ names, Present claims name := by
  induction names with
  | nil => exact List.forall_mem_nil _
  | cons name rest ih =>
    rw [checkPresent] at h
    split at h
    · cases h
    · next hnull =>
      have hpresent : (claims.getD name).isNull = false := (Bool.not_eq_true _).mp hnull
      exact List.forall_mem_cons.mpr ⟨⟨_, Members.get?_of_getD rfl hpresent, hpresent⟩, ih h⟩

/-- A time that passes its check is an integer, and none that is refused. -/
theorem checkTime_ok {name : Text} {kind refused : Flaw} {refuses : Int → Bool} {claims : Members}
    (h : checkTime name kind refused refuses claims = .ok ()) {v : Json}
    (hv : claims.get? name = some v) : ∃ i, integerOf? v = some i ∧ refuses i = false := by
  rw [checkTime, hv] at h
  simp only at h
  split at h
  · cases h
  · next i hi =>
    split at h
    · cases h
    · next hrefuses => exact ⟨i, hi, (Bool.not_eq_true _).mp hrefuses⟩

theorem mem_of_textItems? {items : List Json} {ts : List Text} (h : textItems? items = some ts)
    {t : Text} (ht : t ∈ ts) : Json.text t ∈ items := by
  induction items generalizing ts with
  | nil =>
    obtain rfl := Option.some.inj h
    exact absurd ht List.not_mem_nil
  | cons v rest ih =>
    cases v with
    | text u =>
      obtain ⟨us, hus, rfl⟩ := Option.map_eq_some_iff.mp h
      rcases List.mem_cons.mp ht with rfl | ht
      · exact List.mem_cons_self
      · exact List.mem_cons_of_mem _ (ih hus ht)
    | _ => cases h

/-- The audience claim is a name, or a list in which it is. -/
def Names (claims : Members) (name : Text) : Prop :=
  claims.get? "aud" = some (.text name)
    ∨ ∃ items, claims.get? "aud" = some (.list items) ∧ Json.text name ∈ items

theorem names_of_checkAudience {claims : Members} {name : Text}
    (h : checkAudience (some name) claims = .ok ()) : Names claims name := by
  rw [checkAudience] at h
  split at h
  · split at h
    · cases h
    · next names hnames =>
      split at h
      · next hmem =>
        have hname : name ∈ names := List.contains_iff_mem.mp hmem
        generalize haud : claims.getD "aud" = aud at hnames
        cases aud with
        | text t =>
          obtain rfl := Option.some.inj hnames
          rw [List.mem_singleton.mp hname]
          exact Or.inl (Members.get?_of_getD haud rfl)
        | list items =>
          exact Or.inr ⟨items, Members.get?_of_getD haud rfl, mem_of_textItems? hnames hname⟩
        | _ => cases hnames
      · cases h
  · cases h

/-- A claim that passes as a text is one if it is there. -/
theorem checkText_ok {name : Text} {flaw : Flaw} {claims : Members}
    (h : checkText name flaw claims = .ok ()) :
    claims.get? name = none ∨ ∃ t, claims.get? name = some (.text t) := by
  rw [checkText] at h
  split at h
  · next hnone => exact Or.inl hnone
  · next t htext => exact Or.inr ⟨t, htext⟩
  · cases h

/-- An expected issuer is the one that is named. -/
theorem checkIssuer_ok {name : Text} {claims : Members}
    (h : checkIssuer (some name) claims = .ok ()) : claims.get? "iss" = some (.text name) := by
  rw [checkIssuer] at h
  split at h
  · cases h
  · next t htext =>
    split at h
    · next ht => rw [htext, ht]
    · cases h
  · cases h

/-! ## 2. All claims -/

/-- The required claims are present, and the time lies between the times of issue and beginning and
the end. -/
structure InTime (claims : Members) (required : List Text) (now : Rat) : Prop where
  present : ∀ name ∈ required, Present claims name
  issuedAt : ∀ v, claims.get? "iat" = some v → ∃ i : Int, integerOf? v = some i ∧ i ≤ now
  notBefore : ∀ v, claims.get? "nbf" = some v → ∃ i : Int, integerOf? v = some i ∧ i ≤ now
  expiry : ∀ v, claims.get? "exp" = some v → ∃ i : Int, integerOf? v = some i ∧ now < i

/-- What the checks of the parties and of the texts say of claims that pass. -/
structure FitsParties (expect : Expectations) (claims : Members) : Prop where
  issuer : ∀ name, expect.issuer = some name → claims.get? "iss" = some (.text name)
  audience : ∀ name, expect.audience = some (some name) → Names claims name
  subject : claims.get? "sub" = none ∨ ∃ t, claims.get? "sub" = some (.text t)

/-- Claims that pass their checks are in time and fit the parties. -/
theorem inTime_of_checkClaims {expect : Expectations} {now : Rat} {claims : Members}
    (h : checkClaims expect now claims = .ok ()) :
    InTime claims expect.required now ∧ FitsParties expect claims := by
  obtain ⟨_, hpresent, h⟩ := bind_eq_ok h
  obtain ⟨_, hissued, h⟩ := bind_eq_ok h
  obtain ⟨_, hbegin, h⟩ := bind_eq_ok h
  obtain ⟨_, hend, h⟩ := bind_eq_ok h
  obtain ⟨_, hissuer, h⟩ := bind_eq_ok h
  obtain ⟨hnames, hsubject⟩ : (∀ name, expect.audience = some (some name) → Names claims name)
      ∧ checkText "sub" .subjectKind claims = .ok () := by
    simp only at h
    split at h
    · next hnone =>
      obtain ⟨_, hsubject, -⟩ := bind_eq_ok h
      refine ⟨fun name hname => ?_, hsubject⟩
      cases hnone.symm.trans hname
    · next audience haudience =>
      obtain ⟨_, hnames, h⟩ := bind_eq_ok h
      obtain ⟨_, hsubject, -⟩ := bind_eq_ok h
      refine ⟨fun name hname => ?_, hsubject⟩
      obtain rfl := Option.some.inj (haudience.symm.trans hname)
      exact names_of_checkAudience hnames
  refine ⟨⟨present_of_checkPresent hpresent, ?_, ?_, ?_⟩, ?_, hnames, checkText_ok hsubject⟩
  · intro v hv
    obtain ⟨i, hi, hle⟩ := checkTime_ok hissued hv
    exact ⟨i, hi, not_lt.mp (of_decide_eq_false hle)⟩
  · intro v hv
    obtain ⟨i, hi, hle⟩ := checkTime_ok hbegin hv
    exact ⟨i, hi, not_lt.mp (of_decide_eq_false hle)⟩
  · intro v hv
    obtain ⟨i, hi, hlt⟩ := checkTime_ok hend hv
    exact ⟨i, hi, not_le.mp (of_decide_eq_false hlt)⟩
  · intro name hname
    rw [hname] at hissuer
    exact checkIssuer_ok hissuer

/-- What is true of claims that pass for an audience at a time. -/
structure Holds (claims : Members) (required : List Text) (audience : Text) (now : Rat) :
    Prop where
  present : ∀ name ∈ required, Present claims name
  issuedAt : ∀ v, claims.get? "iat" = some v → ∃ i : Int, integerOf? v = some i ∧ i ≤ now
  notBefore : ∀ v, claims.get? "nbf" = some v → ∃ i : Int, integerOf? v = some i ∧ i ≤ now
  expiry : ∀ v, claims.get? "exp" = some v → ∃ i : Int, integerOf? v = some i ∧ now < i
  audience : Names claims audience

/-- **Claims that pass their checks hold.** -/
theorem holds_of_checkClaims {expect : Expectations} {audience : Text}
    (haudience : expect.audience = some (some audience)) {now : Rat} {claims : Members}
    (h : checkClaims expect now claims = .ok ()) : Holds claims expect.required audience now := by
  obtain ⟨htime, hparties⟩ := inTime_of_checkClaims h
  exact ⟨htime.present, htime.issuedAt, htime.notBefore, htime.expiry,
    hparties.audience audience haudience⟩

/-! ## 3. Claims that pass -/

theorem checkPresent_of_present {claims : Members} {names : List Text}
    (h : ∀ name ∈ names, Present claims name) : checkPresent claims names = .ok () := by
  induction names with
  | nil => rfl
  | cons name rest ih =>
    obtain ⟨⟨v, hv, hnull⟩, hrest⟩ := List.forall_mem_cons.mp h
    have hpresent : ¬ (claims.getD name).isNull = true := by
      rw [Members.getD, hv, Option.getD_some, hnull]
      exact Bool.false_ne_true
    rw [checkPresent, if_neg hpresent, ih hrest]

theorem checkTime_of {name : Text} {kind refused : Flaw} {refuses : Int → Bool} {claims : Members}
    (h : ∀ v, claims.get? name = some v → ∃ i, integerOf? v = some i ∧ refuses i = false) :
    checkTime name kind refused refuses claims = .ok () := by
  rw [checkTime]
  cases hv : claims.get? name with
  | none => rfl
  | some v =>
    obtain ⟨i, hi, hrefuses⟩ := h v hv
    simp only [hi, hrefuses, Bool.false_eq_true, if_false]

/-- A time that is not still to come passes. -/
theorem checkTime_of_le {name : Text} {kind refused : Flaw} {now : Rat} {claims : Members}
    (h : ∀ v, claims.get? name = some v → ∃ i : Int, integerOf? v = some i ∧ i ≤ now) :
    checkTime name kind refused (fun i => now < (i : Rat)) claims = .ok () :=
  checkTime_of fun v hv => by
    obtain ⟨i, hi, hle⟩ := h v hv
    exact ⟨i, hi, decide_eq_false (not_lt.mpr hle)⟩

theorem checkIssuer_of {name : Text} {claims : Members}
    (h : claims.get? "iss" = some (.text name)) : checkIssuer (some name) claims = .ok () := by
  rw [checkIssuer, h]
  exact if_pos rfl

theorem checkAudience_of {name : Text} {claims : Members} (hne : name ≠ [])
    (h : claims.get? "aud" = some (.text name)) : checkAudience (some name) claims = .ok () := by
  have haud : claims.getD "aud" = .text name := by rw [Members.getD, h, Option.getD_some]
  have htruthy : (Json.text name).isTruthy = true := decide_eq_true hne
  have hmem : [name].contains name = true := List.contains_iff_mem.mpr List.mem_cons_self
  simp only [checkAudience, haud, htruthy, audiencesOf?, hmem, if_true]

theorem checkText_of {name : Text} {flaw : Flaw} {claims : Members}
    (h : claims.get? name = none ∨ ∃ t, claims.get? name = some (.text t)) :
    checkText name flaw claims = .ok () := by
  rw [checkText]
  rcases h with h | ⟨t, h⟩
  · rw [h]
  · rw [h]

/-- The issuer, the audience and the texts are as they are expected to be. -/
structure Suits (expect : Expectations) (claims : Members) : Prop where
  issuer : ∀ name, expect.issuer = some name → claims.get? "iss" = some (.text name)
  audience : ∀ a, expect.audience = some a →
    ∃ name, a = some name ∧ name ≠ [] ∧ claims.get? "aud" = some (.text name)
  subject : claims.get? "sub" = none ∨ ∃ t, claims.get? "sub" = some (.text t)
  identifier : claims.get? "jti" = none ∨ ∃ t, claims.get? "jti" = some (.text t)

/-- **Claims that are in time and suit pass their checks.** -/
theorem checkClaims_of_inTime {expect : Expectations} {now : Rat} {claims : Members}
    (htime : InTime claims expect.required now) (hsuits : Suits expect claims) :
    checkClaims expect now claims = .ok () := by
  have hissued : checkIssuedAt now claims = .ok () := checkTime_of_le htime.issuedAt
  have hbegin : checkNotBefore now claims = .ok () := checkTime_of_le htime.notBefore
  have hend : checkExpiry now claims = .ok () := checkTime_of fun v hv => by
    obtain ⟨i, hi, hlt⟩ := htime.expiry v hv
    exact ⟨i, hi, decide_eq_false (not_le.mpr hlt)⟩
  have hissuer : checkIssuer expect.issuer claims = .ok () := by
    cases h : expect.issuer with
    | none => rfl
    | some name => exact checkIssuer_of (hsuits.issuer name h)
  rw [checkClaims, checkPresent_of_present htime.present, hissued, hbegin, hend, hissuer]
  simp only [ok_bind]
  cases h : expect.audience with
  | none =>
    simp only [checkText_of hsuits.subject, checkText_of hsuits.identifier, ok_bind]
  | some a =>
    obtain ⟨name, rfl, hne, haud⟩ := hsuits.audience a h
    simp only [checkAudience_of hne haud, checkText_of hsuits.subject,
      checkText_of hsuits.identifier, ok_bind]

/-- **Claims whose time is over are refused for that**, if their time has begun. -/
theorem checkClaims_of_expired {expect : Expectations} {now : Rat} {claims : Members}
    (hpresent : ∀ name ∈ expect.required, Present claims name)
    (hissued : ∀ v, claims.get? "iat" = some v → ∃ i : Int, integerOf? v = some i ∧ i ≤ now)
    (hbegin : ∀ v, claims.get? "nbf" = some v → ∃ i : Int, integerOf? v = some i ∧ i ≤ now)
    {v : Json} (hexpiry : claims.get? "exp" = some v) {expiry : Int}
    (hcounts : integerOf? v = some expiry) (hle : expiry ≤ now) :
    checkClaims expect now claims = .error .expired := by
  have hissued : checkIssuedAt now claims = .ok () := checkTime_of_le hissued
  have hbegin : checkNotBefore now claims = .ok () := checkTime_of_le hbegin
  have hend : checkExpiry now claims = .error .expired := by
    rw [checkExpiry, checkTime, hexpiry]
    simp only [hcounts, decide_eq_true hle, if_true]
  rw [checkClaims, checkPresent_of_present hpresent, hissued, hbegin, hend]
  rfl

end Portcullis.Token
