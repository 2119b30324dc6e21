/-
# Tokens for nobody

An issuer without an audience, or with an empty one, is to have no token accepted: the audience is
required of a token, and where none is expected none may be named.  What is required however is a
claim that is not null, and what may not be named is one that counts as present; there are values
that are neither (`Json.IsVoid`).  And the empty audience is found where a list names it.

These are the only tokens that pass (`Unaddressed`), and they are made elsewhere: a token that is
issued without an audience holds null, and with an empty one it holds no list.

**Main statements.**  `verify_unaddressed_iff` and `issued_unaddressed`.
-/
import Portcullis.Proofs.Access.Isolation
import Portcullis.Proofs.Token.Lifetime
import Portcullis.Proofs.Token.Typed

namespace Portcullis

/-! ## 1. Values that are neither null nor present -/

/-- A value that does not count as present, and is not null. -/
inductive Json.IsVoid : Json → Prop
  | no : IsVoid (.bool false)
  | zero : IsVoid (.int 0)
  | double {x : Double} (zero : x.isZero = true) : IsVoid (.num x)
  | text : IsVoid (.text [])
  | list : IsVoid (.list [])
  | object : IsVoid (.object [])

theorem Json.isTruthy_eq_false_iff {v : Json} :
    v.isTruthy = false ↔ v = .null ∨ v.IsVoid := by
  constructor
  · intro h
    cases v with
    | null => exact Or.inl rfl
    | bool b =>
      obtain rfl : b = false := h
      exact Or.inr .no
    | int i =>
      obtain rfl : i = 0 := by simpa [isTruthy] using h
      exact Or.inr .zero
    | num x => exact Or.inr (.double (by simpa [isTruthy] using h))
    | text t =>
      obtain rfl : t = [] := by simpa [isTruthy] using h
      exact Or.inr .text
    | list items =>
      obtain rfl : items = [] := by simpa [isTruthy] using h
      exact Or.inr .list
    | object members =>
      obtain rfl : members = [] := by simpa [isTruthy] using h
      exact Or.inr .object
  · rintro (rfl | h)
    · rfl
    · cases h with
      | double zero => simp [isTruthy, zero]
      | _ => rfl

namespace Token

/-- There is no audience that a token could be for. -/
def IsUnset (audience : Option Text) : Prop := audience = none ∨ audience = some []

/-- An audience claim that passes all the same. -/
inductive Slips : Option Text → Json → Prop
  | void {claim : Json} (h : claim.IsVoid) : Slips none claim
  | listed {names : List Text} (h : [] ∈ names) : Slips (some []) (.list (names.map .text))

/-- One name is not a list of names, so that only the empty one slips through. -/
theorem Slips.of_ofText? {expected stamped : Option Text} (h : Slips expected (.ofText? stamped)) :
    expected = none ∧ stamped = some [] := by
  cases stamped with
  | none =>
    cases h with
    | void hvoid => cases hvoid
  | some name =>
    cases h with
    | void hvoid =>
      cases hvoid
      exact ⟨rfl, rfl⟩

/-! ## 2. The checks of the parties -/

/-- The texts of a list are all there is in it. -/
theorem textItems?_eq_some_iff {items : List Json} {ts : List Text} :
    textItems? items = some ts ↔ items = ts.map .text := by
  constructor
  · intro h
    induction items generalizing ts with
    | nil =>
      obtain rfl := Option.some.inj h
      rfl
    | cons v rest ih =>
      cases v with
      | text u =>
        obtain ⟨us, hus, rfl⟩ := Option.map_eq_some_iff.mp h
        rw [ih hus, List.map_cons]
      | _ => cases h
  · rintro rfl
    exact textItems?_map_text ts

/-- **Without an audience** the claim passes if it slips through. -/
theorem checkAudience_ok_iff_slips {expected : Option Text} (hunset : IsUnset expected)
    {claims : Members} {claim : Json} (hclaim : claims.get? "aud" = some claim)
    (hnull : claim.isNull = false) :
    checkAudience expected claims = .ok () ↔ Slips expected claim := by
  have hfound : claims.getD "aud" = claim := by rw [Members.getD, hclaim]; rfl
  have hvoid : claim.isTruthy = false ↔ claim.IsVoid := by
    rw [Json.isTruthy_eq_false_iff, or_iff_right]
    rintro rfl
    cases hnull
  rcases hunset with rfl | rfl
  · simp only [checkAudience, hfound]
    constructor
    · intro h
      cases htruthy : claim.isTruthy with
      | true => simp [htruthy] at h
      | false => exact .void (hvoid.mp htruthy)
    · rintro ⟨hslips⟩
      simp [hvoid.mpr hslips]
  · simp only [checkAudience, hfound]
    constructor
    · intro h
      split at h
      case isFalse => cases h
      next htruthy =>
      split at h
      · cases h
      next names hnames =>
      split at h
      case isFalse => cases h
      next hmem =>
      have hname : [] ∈ names := List.contains_iff_mem.mp hmem
      cases claim with
      | text t =>
        -- The only name in a text is the text, and an empty one does not count as present.
        obtain rfl := Option.some.inj hnames
        obtain rfl := List.mem_singleton.mp hname
        cases htruthy
      | list items =>
        obtain rfl := textItems?_eq_some_iff.mp hnames
        exact .listed hname
      | _ => cases hnames
    · rintro ⟨⟩
      next names hname =>
      have htruthy : (Json.list (names.map .text)).isTruthy = true := by
        simp [Json.isTruthy, List.ne_nil_of_mem hname]
      simp [htruthy, audiencesOf?, textItems?_map_text, hname]

theorem checkText_ok_iff {name : Text} {flaw : Flaw} {claims : Members} :
    checkText name flaw claims = .ok ()
      ↔ claims.get? name = none ∨ ∃ t, claims.get? name = some (.text t) :=
  ⟨checkText_ok, checkText_of⟩

/-- Where no issuer is expected, the audience and the texts are what is left to check. -/
theorem checkParties_ok_iff {required : List Text} {audience : Option Text} {claims : Members} :
    checkParties ⟨required, none, some audience⟩ claims = .ok ()
      ↔ checkAudience audience claims = .ok ()
        ∧ checkText "sub" .subjectKind claims = .ok ()
        ∧ checkText "jti" .identifierKind claims = .ok () := by
  constructor
  · intro h
    obtain ⟨_, -, h⟩ := bind_eq_ok h
    obtain ⟨_, haudience, h⟩ := bind_eq_ok h
    obtain ⟨_, hsubject, hidentifier⟩ := bind_eq_ok h
    exact ⟨haudience, hsubject, hidentifier⟩
  · rintro ⟨haudience, hsubject, hidentifier⟩
    simp only [checkParties, checkIssuer, haudience, hsubject, hidentifier, ok_bind]

end Token

/-! ## 3. Verifying -/

namespace TokenTrust

open Token

/-- A token that is accepted although it is for no audience: it is of a trusted issuer, signed by
its key, in time and names it, and its audience slips through. -/
structure Unaddressed (trust : TokenTrust) (issuer : Issuer) (token : Text) (now : Instant)
    (claims : Members) : Prop where
  trusted : issuer ∈ trust.trusted
  signed : ∃ key, trust.keys issuer = some key
    ∧ contents key.algorithm key.verifyKey token = .ok claims
    ∧ claims.get? "iss" = some (.text key.name)
  inTime : InTime claims ["exp", "iat", "iss", "aud"] now
  audience : ∃ claim, claims.get? "aud" = some claim ∧ Slips (trust.audienceFor issuer) claim
  subject : claims.get? "sub" = none ∨ ∃ t, claims.get? "sub" = some (.text t)
  identifier : claims.get? "jti" = none ∨ ∃ t, claims.get? "jti" = some (.text t)

section Unaddressed

variable {trust : TokenTrust} {issuer : Issuer}

/-- **Where there is no audience** the tokens that are accepted are those whose audience is neither
null nor present, and for the empty audience those that list it. -/
theorem verify_unaddressed_iff (hunset : IsUnset (trust.audienceFor issuer)) (token : Text)
    (now : Instant) (claims : Members) :
    trust.verify token issuer now = .ok claims ↔ Unaddressed trust issuer token now claims := by
  have hparties : ∀ claim, claims.get? "aud" = some claim → claim.isNull = false →
      (checkParties (trust.expectations issuer) claims = .ok ()
        ↔ Slips (trust.audienceFor issuer) claim
          ∧ (claims.get? "sub" = none ∨ ∃ t, claims.get? "sub" = some (.text t))
          ∧ (claims.get? "jti" = none ∨ ∃ t, claims.get? "jti" = some (.text t))) := by
    intro claim hclaim hnull
    rw [expectations, checkParties_ok_iff, checkAudience_ok_iff_slips hunset hclaim hnull,
      checkText_ok_iff, checkText_ok_iff]
  constructor
  · intro h
    obtain ⟨key, hkey, htrusted, hname, hread⟩ := verify_ok_iff.mp h
    obtain ⟨hcontents, hcheck⟩ := read_ok_iff.mp hread
    obtain ⟨htime, hcheck⟩ := checkClaims_ok_iff.mp hcheck
    obtain ⟨claim, hclaim, hnull⟩ := htime.present "aud" (by simp [expectations])
    obtain ⟨hslips, hsubject, hidentifier⟩ := (hparties claim hclaim hnull).mp hcheck
    exact ⟨htrusted, ⟨key, hkey, hcontents, hname⟩, htime, ⟨claim, hclaim, hslips⟩, hsubject,
      hidentifier⟩
  · rintro ⟨htrusted, ⟨key, hkey, hcontents, hname⟩, htime, ⟨claim, hclaim, hslips⟩, hsubject,
      hidentifier⟩
    obtain ⟨found, hfound, hnull⟩ := htime.present "aud" (by decide)
    obtain rfl := Option.some.inj (hclaim.symm.trans hfound)
    have hcheck := (hparties claim hclaim hnull).mpr ⟨hslips, hsubject, hidentifier⟩
    exact verify_ok_iff.mpr ⟨key, hkey, htrusted, hname,
      read_ok_iff.mpr ⟨hcontents, checkClaims_ok_iff.mpr ⟨htime, hcheck⟩⟩⟩

/-- **A token that is issued** is turned away where there is no audience, unless it is stamped with
the empty one and none is expected. -/
theorem issued_unaddressed {key : IssuerKey} (hkey : trust.keys issuer = some key)
    {claims : Members} (hclaims : Json.UniqueNames (.object claims)) {subject : Option Text}
    {span : Rat} {now : Instant} {stamp : Instant → Int} {token : Text}
    (hissue : trust.issue issuer claims subject span now stamp = .ok token) {reader : TokenTrust}
    (hunset : IsUnset (reader.audienceFor issuer))
    (hstamp : trust.audienceFor issuer = some [] → reader.audienceFor issuer = some [])
    (t : Instant) : TurnsAway reader token issuer t := by
  obtain ⟨signingKey, -, hmint⟩ := issue_ok hkey hissue
  refine turnsAway_of_whole (ascii_of_mint hmint).whole fun found haccepted => ?_
  obtain ⟨expected, -, -, hread⟩ := verify_ok haccepted
  have hstamped := (parties_of_issued hkey hclaims hissue hread).2
  obtain ⟨claim, hclaim, hslips⟩ := ((verify_unaddressed_iff hunset token t found).mp
    haccepted).audience
  obtain rfl := Option.some.inj (hclaim.symm.trans hstamped)
  obtain ⟨hnone, hempty⟩ := hslips.of_ofText?
  obtain ⟨stamped, haudience, hjoined⟩ := Option.map_eq_some_iff.mp hempty
  obtain rfl := (Text.joined_eq_iff (by simp) stamped).mp hjoined
  cases hnone.symm.trans (hstamp haudience)

end Unaddressed

/-- A trust in one issuer, whose tokens are for an audience that may be unset. -/
def trustFor (audience : Option Text) : TokenTrust := { sharedKeyTrust with audience }

/-- A token for an audience is not accepted where none is set. -/
theorem verify_unaddressed_sharedKeyToken :
    IsUnset ((trustFor none).audienceFor .authService)
      ∧ (∃ claims, sharedKeyTrust.verify sharedKeyToken .authService 50 = .ok claims)
      ∧ ∀ claims, (trustFor none).verify sharedKeyToken .authService 50 ≠ .ok claims := by
  have hunset : IsUnset ((trustFor none).audienceFor .authService) := Or.inl rfl
  refine ⟨hunset, ⟨sharedKeyClaims, ok_of_toOption (by decide +kernel)⟩, ?_⟩
  intro claims haccepted
  obtain ⟨-, ⟨key, hkey, hcontents, -⟩, -, ⟨claim, hclaim, hslips⟩, -, -⟩ :=
    (verify_unaddressed_iff hunset sharedKeyToken 50 claims).mp haccepted
  obtain rfl := Option.some.inj hkey
  have hfound : contents "HS256" "correct horse battery staple" sharedKeyToken
      = .ok sharedKeyClaims := ok_of_toOption (by decide +kernel)
  obtain rfl := Except.ok.inj (hfound.symm.trans hcontents)
  obtain rfl : Json.list [.text "A"] = claim := Option.some.inj hclaim
  cases hslips with
  | void h => cases h

/-- A token of the issuer for the empty text. -/
def voidToken : Text :=
  ("eyJhbGciOiJIUzI1NiJ9" : Text)
    ++ ".eyJpc3MiOiJhdXRoLXNlcnZpY2UiLCJhdWQiOiIiLCJpYXQiOjAsImV4cCI6MTAwfQ"
    ++ ".tWeST462TtrJJCgNGTZyXNAfOFMDyeWq8Lkgz6Ui_fE"

/-- Where no audience is set, the token with the empty text for its audience is accepted. -/
theorem verify_voidToken :
    (trustFor none).audienceFor .authService = none
      ∧ (trustFor none).verify voidToken .authService 50 = .ok [("iss", .text "auth-service"),
        ("aud", .text []), ("iat", .int 0), ("exp", .int 100)] :=
  ⟨rfl, ok_of_toOption (by decide +kernel)⟩

end TokenTrust

end Portcullis
