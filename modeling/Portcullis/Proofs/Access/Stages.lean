/-
# At which stage an access token is refused

An access token is looked at in seven stages (`Stage`): its issuer has a key, it has the form of a
token, it is signed under the key, its content is as it must be and its time has begun, its time is
not over, it is for the audience, and its issuer is trusted.  Each stage asks something that can be
said without the others (`Passes`).  A token that is refused is refused for the first stage that it
does not pass, however many more there are.

This is so where the claims are of the right kinds and the header says nothing but the algorithm and
the type; it depends neither on which stages fail together nor on how deep anything nests.

**Main statement.**  `verify_refused_iff`.
-/
import Portcullis.Proofs.Access.Settled
import Portcullis.Proofs.Access.Workable
import Portcullis.Proofs.Token.Typed

namespace Portcullis

namespace TokenTrust

open Token

/-! ## 1. The stages -/

/-- The stages of verification. -/
inductive Stage where
  /-- The issuer has a key. -/
  | key
  /-- The token is three segments in base 64, of which the first is a JSON object. -/
  | form
  /-- The token is of the key's algorithm, and signed under the key. -/
  | signature
  /-- The payload is an object, the required claims are in it, and the time has begun. -/
  | content
  /-- The time is not over. -/
  | expiry
  /-- The audience is named. -/
  | audience
  /-- The issuer is trusted, and it is named. -/
  | issuer

namespace Stage

/-- The order in which the stages count. -/
def order : List Stage := [.key, .form, .signature, .content, .expiry, .audience, .issuer]

/-- The reason of the refusal at a stage. -/
def reason : Stage → Reason
  | key => .unknownIssuer
  | form | content => .malformed
  | signature => .invalidSignature
  | expiry => .expired
  | audience => .audienceMismatch
  | issuer => .issuerNotTrusted

end Stage

/-- The claims that every access token has to have. -/
def requiredClaims : List Text := ["exp", "iat", "iss", "aud"]

/-- A token passes a stage, whatever is true of the others. -/
def Passes (trust : TokenTrust) (issuer : Issuer) (token : Text) (now : Instant) : Stage → Prop
  | .key => ∃ key, trust.keys issuer = some key
  | .form => ∃ s, Formed token s
  | .signature => ∃ key s, trust.keys issuer = some key ∧ Formed token s
      ∧ SignedUnder key.algorithm key.verifyKey s
  | .content => ∃ claims, Carries token claims ∧ Begun claims requiredClaims now
  | .expiry => ∃ claims, Carries token claims ∧ Unexpired claims now
  | .audience => ∃ claims audience, Carries token claims
      ∧ trust.audienceFor issuer = some audience ∧ Names claims audience
  | .issuer => issuer ∈ trust.trusted ∧ ∃ key claims, trust.keys issuer = some key
      ∧ Carries token claims ∧ claims.get? "iss" = some (.text key.name)

/-- A stage is the first of a list that is not passed. -/
inductive FirstFailing (passes : Stage → Prop) : List Stage → Stage → Prop
  | here {stage : Stage} {rest : List Stage} (fails : ¬ passes stage) :
      FirstFailing passes (stage :: rest) stage
  | later {passed stage : Stage} {rest : List Stage} (pass : passes passed)
      (first : FirstFailing passes rest stage) : FirstFailing passes (passed :: rest) stage

/-- A result is decided in stages: the first that is not passed refuses, and if all are passed there
are claims. -/
inductive DecidedIn (passes : Stage → Prop) : List Stage → Except Fault Members → Prop
  | refused {stage : Stage} {rest : List Stage} (message : Text) (fails : ¬ passes stage) :
      DecidedIn passes (stage :: rest) (.error (.access stage.reason message))
  | next {stage : Stage} {rest : List Stage} {result : Except Fault Members} (pass : passes stage)
      (others : DecidedIn passes rest result) : DecidedIn passes (stage :: rest) result
  | accepted (claims : Members) : DecidedIn passes [] (.ok claims)

/-- The reason for which a result is refused is that of the first stage that is not passed. -/
theorem DecidedIn.refused_iff {passes : Stage → Prop} {stages : List Stage}
    {result : Except Fault Members} (h : DecidedIn passes stages result) (reason : Reason) :
    (∃ message, result = .error (.access reason message))
      ↔ ∃ stage, FirstFailing passes stages stage ∧ stage.reason = reason := by
  induction h with
  | @refused stage rest message fails =>
    constructor
    · rintro ⟨_, heq⟩
      exact ⟨stage, .here fails, (Fault.access.inj (Except.error.inj heq)).1⟩
    · rintro ⟨first, hfirst, rfl⟩
      cases hfirst with
      | here => exact ⟨message, rfl⟩
      | later pass => exact absurd pass fails
  | next pass _ ih =>
    rw [ih]
    refine exists_congr fun stage => and_congr_left' ⟨.later pass, fun hfirst => ?_⟩
    cases hfirst with
    | here fails => exact absurd pass fails
    | later _ first => exact first
  | accepted claims =>
    refine iff_of_false ?_ ?_
    · rintro ⟨message, heq⟩
      cases heq
    · rintro ⟨stage, hfirst, -⟩
      cases hfirst

/-! ## 2. One stage after the other -/

section Verify

variable {trust : TokenTrust} {issuer : Issuer} {key : IssuerKey} {audience token : Text}
  {now : Instant}

/-- A flaw that reading finds is a refusal at its stage. -/
theorem decidedIn_of_flaw {passes : Stage → Prop} {stage : Stage} {rest : List Stage}
    (fails : ¬ passes stage) (hkey : trust.keys issuer = some key) {flaw : Flaw}
    (hread : Token.read key.algorithm key.verifyKey (trust.expectations issuer) now token
      = .error (.token flaw)) (hreason : reasonOf flaw = stage.reason) :
    DecidedIn passes (stage :: rest) (trust.verify token issuer now) := by
  have hrefused : trust.verify token issuer now
      = .error (.access (reasonOf flaw) flaw.message) := verify_of_read_error hkey hread
  rw [hrefused, hreason]
  exact .refused flaw.message fails

/-- Claims that are read pass the last stage, or are refused there. -/
theorem decidedIn_of_read (hkey : trust.keys issuer = some key) {claims : Members}
    (hcarries : Carries token claims)
    (hread : Token.read key.algorithm key.verifyKey (trust.expectations issuer) now token
      = .ok claims) :
    DecidedIn (Passes trust issuer token now) [.issuer] (trust.verify token issuer now) := by
  rcases verify_of_read hkey hread with ⟨htrusted, hname, hok⟩ | ⟨message, herror⟩
  · rw [hok]
    exact .next ⟨htrusted, key, claims, hkey, hcarries, hname⟩ (.accepted claims)
  · rw [herror]
    refine .refused message ?_
    rintro ⟨htrusted, key', claims', hkey', hcarries', hname⟩
    obtain rfl : key = key' := by simpa using hkey.symm.trans hkey'
    obtain rfl := hcarries.unique hcarries'
    cases herror.symm.trans (verify_of_named hkey hread htrusted hname)

/-- A token that is signed is decided by its content. -/
theorem decidedIn_of_signed (hkey : trust.keys issuer = some key)
    (haudience : trust.audienceFor issuer = some audience) {s : Segments} (hformed : Formed token s)
    (hsigned : authenticate key.algorithm key.verifyKey token = .ok s)
    (htyped : ∀ claims, Carries token claims → WellTyped claims) :
    DecidedIn (Passes trust issuer token now) [.content, .expiry, .audience, .issuer]
      (trust.verify token issuer now) := by
  rcases hformed.readClaims_cases with ⟨claims, hcarries, hclaims⟩ | ⟨hnone, flaw, hkind, hclaims⟩
  case inr =>
    refine decidedIn_of_flaw ?_ hkey (read_of_readClaims_error hsigned hclaims) (by
      rw [reasonOf, hkind]; rfl)
    rintro ⟨claims, hcarries, -⟩
    exact hnone claims hcarries
  have honly : ∀ {p : Members → Prop}, ¬ p claims → ¬ ∃ found, Carries token found ∧ p found := by
    rintro p hno ⟨found, hfound, hp⟩
    exact hno (hcarries.unique hfound ▸ hp)
  have hnone : (trust.expectations issuer).issuer = none := rfl
  rcases (htyped claims hcarries).checkClaims_cases hnone (congrArg some haudience)
      (by simp [expectations]) (by simp [expectations]) now with
    ⟨hno, flaw, hkind, hcheck⟩ | ⟨hbegun, hlater⟩
  case inl =>
    refine decidedIn_of_flaw (honly hno) hkey (read_of_checkClaims_error hsigned hclaims hcheck) ?_
    rcases hkind with hkind | hkind <;> rw [reasonOf, hkind] <;> rfl
  refine .next ⟨claims, hcarries, hbegun⟩ ?_
  rcases hlater with ⟨hno, hcheck⟩ | ⟨hunexpired, hlater⟩
  · exact decidedIn_of_flaw (honly hno) hkey (read_of_checkClaims_error hsigned hclaims hcheck) rfl
  refine .next ⟨claims, hcarries, hunexpired⟩ ?_
  rcases hlater with ⟨hno, hcheck⟩ | ⟨hnames, hcheck⟩
  · refine decidedIn_of_flaw ?_ hkey (read_of_checkClaims_error hsigned hclaims hcheck) rfl
    rintro ⟨found, expected, hfound, hexpected, hnames⟩
    obtain rfl := hcarries.unique hfound
    obtain rfl : audience = expected := by simpa using haudience.symm.trans hexpected
    exact hno hnames
  · refine .next ⟨claims, audience, hcarries, haudience, hnames⟩ ?_
    exact decidedIn_of_read hkey hcarries (read_of_checkClaims hsigned hclaims hcheck)

/-- **A token in octets is decided in the stages**, one after the other. -/
theorem decidedIn_of_whole (hkey : trust.keys issuer = some key) (hshared : key.IsShared)
    (haudience : trust.audienceFor issuer = some audience)
    (hplain : ∀ s, Formed token s → Plain s.header)
    (htyped : ∀ claims, Carries token claims → WellTyped claims) (hwhole : token.Whole) :
    DecidedIn (Passes trust issuer token now) Stage.order (trust.verify token issuer now) := by
  obtain ⟨hash, hhash⟩ := exists_hmac hshared.algorithm
  obtain ⟨secret, hsecret⟩ := hshared.usable
  refine .next ⟨key, hkey⟩ ?_
  rcases Segments.read_cases hplain with ⟨s, hformed, hread⟩ | ⟨hnone, flaw, hkind, hread⟩
  case inr =>
    refine decidedIn_of_flaw ?_ hkey
      (read_of_authenticate_error _ _ (authenticate_of_segments_error hwhole hread)) (by
        rw [reasonOf, hkind]; rfl)
    rintro ⟨s, hs⟩
    exact hnone s hs
  refine .next ⟨s, hformed⟩ ?_
  rcases authenticate_cases hhash hsecret hwhole hread with
    ⟨hsigned, hauth⟩ | ⟨hno, flaw, hkind, hauth⟩
  · exact .next ⟨key, s, hkey, hformed, hsigned⟩
      (decidedIn_of_signed hkey haudience hformed hauth htyped)
  · refine decidedIn_of_flaw ?_ hkey (read_of_authenticate_error _ _ hauth) ?_
    · rintro ⟨key', s', hkey', hformed', hsigned⟩
      obtain rfl : key = key' := by simpa using hkey.symm.trans hkey'
      obtain rfl := hformed.unique hformed'
      exact hno hsigned
    · rcases hkind with hkind | hkind <;> rw [reasonOf, hkind] <;> rfl

/-! ## 3. The reason -/

/-- **A token is refused for the first stage that it does not pass**, whatever it is with the later
ones.  What has no octets is not refused, unless there is no key. -/
theorem verify_refused_iff (hkeys : ∀ key, trust.keys issuer = some key → key.IsShared)
    (haudience : trust.audienceFor issuer = some audience)
    (hplain : ∀ s, Formed token s → Plain s.header)
    (htyped : ∀ claims, Carries token claims → WellTyped claims) (reason : Reason) :
    (∃ message, trust.verify token issuer now = .error (.access reason message))
      ↔ (trust.keys issuer = none ∨ token.Whole)
        ∧ ∃ stage, FirstFailing (Passes trust issuer token now) Stage.order stage
          ∧ stage.reason = reason := by
  have hdecided : trust.keys issuer = none ∨ token.Whole →
      DecidedIn (Passes trust issuer token now) Stage.order (trust.verify token issuer now) := by
    intro hchecked
    cases hkey : trust.keys issuer with
    | none =>
      rw [verify, hkey]
      refine .refused _ ?_
      rintro ⟨key, hsome⟩
      cases hkey.symm.trans hsome
    | some key =>
      exact decidedIn_of_whole hkey (hkeys key hkey) haudience hplain htyped
        (hchecked.resolve_left (by simp [hkey]))
  constructor
  · rintro ⟨message, hrefused⟩
    have hchecked := (verify_settled_iff hkeys token now).1.mp (Or.inr ⟨reason, message, hrefused⟩)
    exact ⟨hchecked, ((hdecided hchecked).refused_iff reason).mp ⟨message, hrefused⟩⟩
  · rintro ⟨hchecked, hfirst⟩
    exact ((hdecided hchecked).refused_iff reason).mpr hfirst

end Verify

/-- The header of the token of the shared key. -/
def sharedKeyHeader : Members := [("alg", .text "HS256")]

/-- What the token of the shared key is formed of, and what it carries. -/
theorem formed_sharedKeyToken :
    (∃ s, Formed sharedKeyToken s ∧ s.header = sharedKeyHeader)
      ∧ Carries sharedKeyToken sharedKeyClaims := by
  have hheader : (Segments.read sharedKeyToken).toOption.map Segments.header
      = some sharedKeyHeader := by decide +kernel
  obtain ⟨s, hread, hheader⟩ := Option.map_eq_some_iff.mp hheader
  have hclaims : (do
      let s ← Segments.read sharedKeyToken
      readClaims s.payload) = .ok sharedKeyClaims := ok_of_toOption (by decide +kernel)
  rw [ok_of_toOption hread, ok_bind] at hclaims
  have hformed := Segments.read_ok (ok_of_toOption hread)
  exact ⟨⟨s, hformed, hheader⟩, s, hformed, readClaims_ok hclaims⟩

theorem wellTyped_sharedKeyClaims : WellTyped sharedKeyClaims := by
  constructor
  · intro name hname v hv
    simp only [List.mem_cons, List.not_mem_nil, or_false] at hname
    rcases hname with rfl | rfl | rfl
    · cases hv
      exact ⟨0, rfl⟩
    · cases hv
    · cases hv
      exact ⟨100, rfl⟩
  · intro v hv
    cases hv
    exact Or.inr ⟨["A"], rfl, by simp⟩
  · intro name hname v hv
    simp only [List.mem_cons, List.not_mem_nil, or_false] at hname
    rcases hname with rfl | rfl
    · cases hv
    · cases hv

/-- A trust in the same key, for another audience and without an issuer. -/
def strangerTrust : TokenTrust := { sharedKeyTrust with audience := some "B", trusted := [] }

/-- A token whose time is over is refused for that, although it is for another audience and of an
issuer that is not trusted. -/
theorem verify_refused_sharedKeyToken :
    (∃ message, strangerTrust.verify sharedKeyToken .authService 200
        = .error (.access .expired message))
      ∧ FirstFailing (Passes strangerTrust .authService sharedKeyToken 200) Stage.order .expiry
      ∧ ¬ Passes strangerTrust .authService sharedKeyToken 200 .audience
      ∧ ¬ Passes strangerTrust .authService sharedKeyToken 200 .issuer := by
  obtain ⟨⟨s, hformed, hheader⟩, hcarries⟩ := formed_sharedKeyToken
  have hplain : ∀ s, Formed sharedKeyToken s → Plain s.header := by
    intro s' hformed' m hm
    rw [hformed'.unique hformed, hheader] at hm
    exact Or.inl (congrArg Prod.fst (List.mem_singleton.mp hm))
  have htyped : ∀ claims, Carries sharedKeyToken claims → WellTyped claims := by
    intro claims hclaims
    rw [hclaims.unique hcarries]
    exact wellTyped_sharedKeyClaims
  have hexpired : ∃ message, strangerTrust.verify sharedKeyToken .authService 200
      = .error (.access .expired message) := by
    have hdecided : (match strangerTrust.verify sharedKeyToken .authService 200 with
      | .error (.access .expired _) => true
      | _ => false) = true := by decide +kernel
    split at hdecided
    · next message hmessage => exact ⟨message, hmessage⟩
    · cases hdecided
  have hkeys : ∀ key, strangerTrust.keys .authService = some key → key.IsShared :=
    isShared_sharedKeyTrust
  have haudience : strangerTrust.audienceFor .authService = some ("B" : Text) := rfl
  obtain ⟨-, stage, hfirst, hreason⟩ :=
    (verify_refused_iff hkeys haudience hplain htyped .expired).mp hexpired
  refine ⟨hexpired, ?_, ?_, ?_⟩
  · cases stage <;> first | exact hfirst | cases hreason
  · rintro ⟨claims, audience, hclaims, hexpected, hnames⟩
    obtain rfl := hclaims.unique hcarries
    obtain rfl : ("B" : Text) = audience := Option.some.inj (haudience.symm.trans hexpected)
    rcases hnames with htext | ⟨items, hlist, hmem⟩
    · cases htext
    · cases hlist
      exact absurd (List.mem_singleton.mp hmem) (by decide)
  · rintro ⟨htrusted, -⟩
    cases htrusted

end TokenTrust

end Portcullis
