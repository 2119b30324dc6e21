/-
# What the startup check is worth

A strategy for access tokens is let through if its issuer has a key and an audience.  For an issuer
with a shared secret that is not enough for its tokens to be of use: the algorithm may be spelled in
another letter case than in headers or be none at all, the secret may be the text of another key,
and the issuer may not be trusted.  What the check leaves open is exactly that, and whether the
names are read back as they are.

**Main statement.**  `symmetric_of_require`.
-/
import Portcullis.Proofs.Access.Workable
import Portcullis.Proofs.Authentication.Bearer
import Portcullis.Proofs.Authentication.Hmac
import Portcullis.Proofs.Service.Building

namespace Portcullis

/-! ## 1. Bearing a token -/

/-- The request bears a token. -/
def Request.Bears (r : Request) (token : Text) : Prop :=
  r.header? "authorization" = some (("Bearer " : Text) ++ token)

namespace Token

/-- No sign of a segment is blank. -/
theorem isBlank_of_mem_encode {b : Bytes} {c : CodePoint}
    (h : c ∈ Base64.encode Base64.urlSafe b) : c.isBlank = false := by
  have hall : ∀ v < 64, (Base64.urlSafe.digit v).isBlank = false := by decide
  obtain ⟨v, hv, rfl⟩ := List.mem_map.mp h
  exact hall v (Base64.sextets_lt b v hv)

/-- No sign of a minted token is blank, and there are some. -/
theorem solid_of_mint {algorithm key token : Text} {claims : Members}
    (h : mint algorithm key claims = .ok token) :
    token ≠ [] ∧ ∀ c ∈ token, c.isBlank = false := by
  obtain ⟨a, ha⟩ := ofName?_of_mint h
  obtain ⟨-, -, signature, -, rfl⟩ := mint_ok ha h
  have hdot : dot.isBlank = false := by decide
  refine ⟨List.append_ne_nil_of_right_ne_nil _ (List.cons_ne_nil _ _), ?_⟩
  simp only [signedPart, segment, List.mem_append, List.mem_cons]
  rintro c ((hc | rfl | hc) | rfl | hc)
  · exact isBlank_of_mem_encode hc
  · exact hdot
  · exact isBlank_of_mem_encode hc
  · exact hdot
  · exact isBlank_of_mem_encode hc

end Token

/-- A minted token that is borne is found. -/
theorem Request.Bears.bearerToken? {r : Request} {token : Text} (h : r.Bears token)
    (hne : token ≠ []) (hsolid : ∀ c ∈ token, c.isBlank = false) :
    r.bearerToken? = some token := by
  have hoffers : r.Offers token :=
    ⟨"Bearer", token, h, by decide, by decide,
      Text.strip_of_trimmed (Text.trimmed_of_forall hsolid)⟩
  exact (Request.bearerToken?_eq_some_iff r token).mpr ⟨hoffers, hne⟩

/-! ## 2. Keys from settings -/

/-- The settings of an issuer. -/
def Settings.ofIssuer (s : Settings) : Issuer → IssuerSettings
  | .authService => s.authService
  | .adminApi => s.adminApi

namespace Trust

variable {files : Files} {s : Settings} {trust : Trust} {issuer : Issuer}

/-- The key of an issuer is made of its settings. -/
theorem issuerKey_of_ofSettings (h : ofSettings files s = .ok trust) (issuer : Issuer) :
    ∃ audience, issuerKey files (s.ofIssuer issuer) audience = .ok (trust.tokens.keys issuer) := by
  obtain ⟨authKey, hauth, h⟩ := bind_eq_ok h
  obtain ⟨adminKey, hadmin, h⟩ := bind_eq_ok h
  obtain ⟨trusted, -, h⟩ := bind_eq_ok h
  have hkeys : trust.tokens.keys = fun
      | .authService => authKey
      | .adminApi => adminKey := by
    split at h
    · obtain ⟨static, -, h⟩ := bind_eq_ok h
      obtain rfl := Except.ok.inj h
      rfl
    · obtain rfl := Except.ok.inj h
      rfl
  rw [hkeys]
  cases issuer with
  | authService => exact ⟨_, hauth⟩
  | adminApi => exact ⟨_, hadmin⟩

/-- A shared secret is the secret that is set. -/
theorem issuerKey_symmetric {settings : IssuerSettings} {audience : Option Text} {key : IssuerKey}
    (hkind : settings.algorithm.upper.startsWith "HS" = true)
    (h : issuerKey files settings audience = .ok (some key)) :
    ∃ secret, filled? settings.secret = some secret
      ∧ key = ⟨settings.name, settings.algorithm, secret, some secret, audience⟩ := by
  rw [issuerKey, if_pos hkind] at h
  obtain ⟨secret, hsecret, rfl⟩ := Option.map_eq_some_iff.mp (Except.ok.inj h)
  exact ⟨secret, hsecret, rfl⟩

/-- What the check makes sure of. -/
theorem require_jwt (h : trust.require (.jwt issuer) = .ok ()) :
    (∃ key, trust.tokens.keys issuer = some key)
      ∧ ∃ audience, trust.tokens.audienceFor issuer = some audience ∧ audience ≠ [] := by
  rw [require] at h
  split at h
  · cases h
  next hkey =>
  split at h
  · cases h
  next haudience =>
  rw [Bool.not_eq_true, Option.isNone_eq_false_iff] at hkey haudience
  obtain ⟨audience, hfilled⟩ := Option.isSome_iff_exists.mp haudience
  exact ⟨Option.isSome_iff_exists.mp hkey, audience,
    (Authentication.filled?_eq_some_iff _ _).mp hfilled⟩

/-- An issuer with settings for a shared secret is equipped if it passes the check. -/
theorem equipped_of_require (hbuilt : ofSettings files s = .ok trust)
    (hkind : (s.ofIssuer issuer).algorithm.upper.startsWith "HS" = true)
    (hrequire : trust.require (.jwt issuer) = .ok ()) :
    ∃ key audience, trust.tokens.Equipped issuer key audience
      ∧ key.name = (s.ofIssuer issuer).name ∧ key.algorithm = (s.ofIssuer issuer).algorithm
      ∧ filled? (s.ofIssuer issuer).secret = some key.verifyKey := by
  obtain ⟨⟨key, hkey⟩, audience, haudience, hne⟩ := require_jwt hrequire
  obtain ⟨own, hmade⟩ := issuerKey_of_ofSettings hbuilt issuer
  rw [hkey] at hmade
  obtain ⟨secret, hsecret, rfl⟩ := issuerKey_symmetric hkind hmade
  exact ⟨_, audience, ⟨hkey, rfl, hkind, haudience, hne⟩, rfl, rfl, hsecret⟩

end Trust

namespace Service

open Authentication TokenTrust

/-! ## 3. What the check is worth -/

/-- Nothing about a token stands in its way: its claims can be written and pass their checks, and
its times are dates. -/
structure Ordinary (claims : Members) (span : Rat) (now : Instant) (stamp : Instant → Int) :
    Prop where
  mintable : Mintable claims
  unobtrusive : Unobtrusive claims
  dated : Instant.Dated stamp
  start : Instant.hasDate now = true
  stop : Instant.hasDate (now + span) = true

variable {files : Trust.Files} {s : Settings} {trust : Trust} {issuer : Issuer}

/-- A request that bears an issued token is authenticated exactly if the token is verified. -/
theorem authenticate_bears_iff {claims : Members} {subject : Option Text} {span : Rat}
    {now : Instant} {stamp : Instant → Int} {token : Text} {key : IssuerKey}
    (hkey : trust.tokens.keys issuer = some key)
    (hissue : trust.tokens.issue issuer claims subject span now stamp = .ok token) {r : Request}
    (hbears : r.Bears token) (t : Instant) :
    (∃ p, (authenticate trust (.jwt issuer) r t).outcome = .ok p)
      ↔ ∃ found, trust.tokens.verify token issuer t = .ok found := by
  obtain ⟨_, -, hmint⟩ := issue_ok hkey hissue
  obtain ⟨hne, hsolid⟩ := Token.solid_of_mint hmint
  have hfound := hbears.bearerToken? hne hsolid
  simp only [authenticate_ok_iff]
  constructor
  · rintro ⟨p, hp⟩
    obtain ⟨found, ⟨other, hother, hverify⟩, -⟩ := outcome_jwt_iff.mp hp
    obtain rfl := Option.some.inj (hfound.symm.trans hother)
    exact ⟨found, hverify⟩
  · rintro ⟨found, hverify⟩
    exact ⟨_, outcome_jwt_iff.mpr ⟨found, ⟨token, hfound, hverify⟩, rfl⟩⟩

/-- **An issuer with settings for a shared secret that passes the startup check** issues tokens
exactly if the algorithm is spelled as in headers and the secret can be used as one.  A request that
bears such a token is authenticated during its lifetime exactly if the issuer is trusted and neither
its name nor the audience has a pair of surrogates in it. -/
theorem symmetric_of_require (hbuilt : Trust.ofSettings files s = .ok trust)
    (hkind : (s.ofIssuer issuer).algorithm.upper.startsWith "HS" = true)
    (hrequire : trust.require (.jwt issuer) = .ok ()) :
    ∃ secret audience, Trust.filled? (s.ofIssuer issuer).secret = some secret
      ∧ trust.tokens.audienceFor issuer = some audience
      ∧ ∀ (claims : Members) (subject : Option Text) (span : Rat) (now : Instant)
        (stamp : Instant → Int), Ordinary claims span now stamp →
        ((∃ token, trust.tokens.issue issuer claims subject span now stamp = .ok token)
          ↔ (s.ofIssuer issuer).algorithm ∈ (["HS256", "HS384", "HS512"] : List Text)
            ∧ ∃ octets, Token.secretBytes secret = .ok octets)
        ∧ ∀ token, trust.tokens.issue issuer claims subject span now stamp = .ok token →
          ∀ r : Request, r.Bears token → ∀ t : Instant, stamp now ≤ t → t < stamp (now + span) →
            ((∃ p, (authenticate trust (.jwt issuer) r t).outcome = .ok p)
              ↔ issuer ∈ trust.tokens.trusted ∧ (s.ofIssuer issuer).name.Unpaired
                ∧ audience.Unpaired) := by
  obtain ⟨key, audience, hequipped, hname, halgorithm, hsecret⟩ :=
    Trust.equipped_of_require hbuilt hkind hrequire
  rw [← hname, ← halgorithm]
  refine ⟨key.verifyKey, audience, hsecret, hequipped.audienceFor, ?_⟩
  intro claims subject span now stamp hordinary
  constructor
  · rw [issue_ok_iff hequipped hordinary.mintable hordinary.dated hordinary.start hordinary.stop]
    exact ⟨fun h => ⟨h.algorithm, h.usable⟩, fun h => ⟨h.1, h.2⟩⟩
  · intro token hissue r hbears t hstart hlt
    rw [authenticate_bears_iff hequipped.found hissue hbears]
    exact verify_issued_iff hequipped hordinary.unobtrusive hissue hstart hlt

theorem ordinary_nil {stamp : Instant → Int} (h : Instant.Dated stamp) :
    Ordinary [] 100 0 stamp where
  mintable := ⟨rfl, rfl⟩
  unobtrusive := ⟨by decide, rfl, Or.inl rfl, Or.inl rfl⟩
  dated := h
  start := by decide +kernel
  stop := by decide +kernel

/-- Settings of a service whose administrators' tokens are signed under a shared secret. -/
def adminSettings (trusted : Text) : Settings :=
  Settings.build [
    ("ENGINE_ADMIN_API_JWT_SECRET", "correct horse battery staple"),
    ("ENGINE_ACCESS_TOKEN_AUDIENCE", "A"), ("ENGINE_TRUSTED_ISSUERS", trusted)] .dev 8080 false

/-- A token for administrators. -/
def adminToken : Text :=
  ("eyJhbGciOiJIUzI1NiIsInR5cCI6IkpXVCJ9" : Text)
    ++ ".eyJpc3MiOiJhZG1pbi1hcGkiLCJhdWQiOiJBIiwiaWF0IjowLCJleHAiOjEwMH0"
    ++ ".FtN4WJ-3pz5kqx3CvU3nn_ej44ntg0MG2AqDqIxSOOI"

/-- A request that bears it. -/
def adminRequest : Request where
  method := "GET"
  path := "/status"
  query := []
  headers := [(("authorization" : Text), ("Bearer " : Text) ++ adminToken)]
  body := []
  tls := .null
  client := none
  identity := .absent

/-- The administrators' tokens work where their issuer is trusted, also those that are stamped with
the readings of a clock. -/
theorem symmetric_adminSettings :
    ∃ trust, Trust.ofSettings noFiles (adminSettings "auth_service,admin_api") = .ok trust
      ∧ trust.require (.jwt .adminApi) = .ok ()
      ∧ (∃ token, trust.tokens.issue .adminApi [] none 100 0 = .ok token)
      ∧ trust.tokens.issue .adminApi [] none 100 0 Instant.stamp = .ok adminToken
      ∧ ∃ p, (authenticate trust (.jwt .adminApi) adminRequest 50).outcome = .ok p := by
  obtain ⟨trust, hbuilt, hseen⟩ := ok_of_map_toOption
    (x := Trust.ofSettings noFiles (adminSettings "auth_service,admin_api"))
    (f := fun trust => ((trust.require (.jwt .adminApi)).toOption,
      (trust.tokens.issue .adminApi [] none 100 0 Instant.stamp).toOption, trust.tokens.trusted,
      trust.tokens.audienceFor .adminApi))
    (b := (some (), some adminToken, [.authService, .adminApi], some ("A" : Text)))
    (by decide +kernel)
  simp only [Prod.mk.injEq] at hseen
  obtain ⟨hrequire, hissue, htrusted, haudience⟩ := hseen
  have hrequire := ok_of_toOption hrequire
  have hissue := ok_of_toOption hissue
  obtain ⟨secret, audience, hsecret, hstamped, hworks⟩ :=
    symmetric_of_require hbuilt (by decide) hrequire
  obtain rfl : "correct horse battery staple" = secret := Option.some.inj hsecret
  obtain rfl := Option.some.inj (haudience.symm.trans hstamped)
  refine ⟨trust, hbuilt, hrequire, ?_, hissue, ?_⟩
  · refine (hworks [] none 100 0 _ (ordinary_nil Instant.dated_wholeSeconds)).1.mpr ?_
    exact ⟨by decide, Bytes.ofAscii "correct horse battery staple",
      ok_of_toOption (by decide +kernel)⟩
  · refine ((hworks [] none 100 0 _ (ordinary_nil Instant.dated_stamp)).2 adminToken hissue
      adminRequest rfl 50 (by decide +kernel) (by decide +kernel)).mpr ?_
    rw [htrusted]
    exact ⟨by decide, by decide, by decide⟩

/-- Where it is not, the startup check lets them through all the same. -/
theorem refused_adminSettings :
    ∃ trust, Trust.ofSettings noFiles (adminSettings "auth_service") = .ok trust
      ∧ ((adminSettings "auth_service").ofIssuer .adminApi).algorithm.upper.startsWith "HS" = true
      ∧ trust.require (.jwt .adminApi) = .ok ()
      ∧ trust.tokens.issue .adminApi [] none 100 0 = .ok adminToken
      ∧ adminRequest.Bears adminToken
      ∧ (Instant.wholeSeconds 0 : Rat) ≤ 50 ∧ (50 : Rat) < Instant.wholeSeconds (0 + 100)
      ∧ ∀ p, (authenticate trust (.jwt .adminApi) adminRequest 50).outcome ≠ .ok p := by
  obtain ⟨trust, hbuilt, hseen⟩ := ok_of_map_toOption
    (x := Trust.ofSettings noFiles (adminSettings "auth_service"))
    (f := fun trust => ((trust.require (.jwt .adminApi)).toOption,
      (trust.tokens.issue .adminApi [] none 100 0).toOption,
      (authenticate trust (.jwt .adminApi) adminRequest 50).outcome.isOk))
    (b := (some (), some adminToken, false)) (by decide +kernel)
  simp only [Prod.mk.injEq] at hseen
  obtain ⟨hrequire, hissue, hrefused⟩ := hseen
  refine ⟨trust, hbuilt, by decide, ok_of_toOption hrequire, ok_of_toOption hissue, rfl,
    by decide +kernel, by decide +kernel, ?_⟩
  intro p hp
  rw [hp] at hrefused
  cases hrefused

end Service

end Portcullis
