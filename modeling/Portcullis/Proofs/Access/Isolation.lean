/-
# Issuers and audiences kept apart

An issued token names its issuer and its audience whatever the caller claims, so that it is turned
away where another issuer is expected or another audience (`TurnsAway`), also under the same secret.

The names are read back from ASCII: a name with a pair of surrogates is taken for the name with the
pair joined, and two issuers that differ in nothing else are not kept apart.

**Main statement.**  `issued_isolated`.
-/
import Portcullis.Proofs.Access.Settled

namespace Portcullis

namespace TokenTrust

open Token

/-- A token is not accepted for an issuer; under a shared secret that can be used it is refused at a
stage. -/
structure TurnsAway (trust : TokenTrust) (token : Text) (issuer : Issuer) (now : Instant) :
    Prop where
  notAccepted : ∀ claims, trust.verify token issuer now ≠ .ok claims
  refused : (∀ key, trust.keys issuer = some key → key.IsShared) →
    ∃ reason message, trust.verify token issuer now = .error (.access reason message)

/-- A text in octets that is not accepted is turned away. -/
theorem turnsAway_of_whole {trust : TokenTrust} {token : Text} {issuer : Issuer} {now : Instant}
    (hwhole : token.Whole) (h : ∀ claims, trust.verify token issuer now ≠ .ok claims) :
    TurnsAway trust token issuer now where
  notAccepted := h
  refused hkeys := by
    rcases settled_of_whole hkeys hwhole with ⟨claims, hok⟩ | hrefused
    · exact absurd hok (h claims)
    · exact hrefused

section Issued

variable {trust : TokenTrust} {issuer : Issuer} {key : IssuerKey} {claims : Members}
  {subject : Option Text} {span : Rat} {now : Instant} {stamp : Instant → Int} {token : Text}

/-- What is found of the parties in a token, whoever reads it: their names with the pairs
joined. -/
theorem parties_of_issued (hkey : trust.keys issuer = some key)
    (hclaims : Json.UniqueNames (.object claims))
    (hissue : trust.issue issuer claims subject span now stamp = .ok token)
    {algorithm secret : Text} {expect : Expectations} {t : Rat} {found : Members}
    (hread : Token.read algorithm secret expect t token = .ok found) :
    found.get? "iss" = some (.text key.name.joined)
      ∧ found.get? "aud" = some (.ofText? ((trust.audienceFor issuer).map Text.joined)) := by
  obtain ⟨signingKey, -, hmint⟩ := issue_ok hkey hissue
  obtain ⟨a, ha⟩ := ofName?_of_mint hmint
  have hnames := uniqueNames_claimsFor trust issuer key hclaims subject (stamp now)
    (stamp (now + span))
  have hfind := get?_claimsFor trust issuer key claims subject (stamp now) (stamp (now + span))
  obtain rfl := claims_of_read_minted ha hmint hread
  rw [get?_readBack_ascii hnames (by decide), get?_readBack_ascii hnames (by decide), hfind, hfind]
  refine ⟨rfl, ?_⟩
  cases trust.audienceFor issuer with
  | none => rfl
  | some audience => rfl

/-- **A token that is issued for one issuer** is turned away, at every time, where an issuer of
another name is expected, and under every trust whose audience is another one than it was stamped
with. -/
theorem issued_isolated (hkey : trust.keys issuer = some key)
    (hclaims : Json.UniqueNames (.object claims))
    (hissue : trust.issue issuer claims subject span now stamp = .ok token) :
    (∀ (other : Issuer) (otherKey : IssuerKey), trust.keys other = some otherKey →
        otherKey.name ≠ key.name.joined → ∀ t, TurnsAway trust token other t)
      ∧ ∀ (reader : TokenTrust) (audience : Text), reader.audienceFor issuer = some audience →
        (∀ stamped, trust.audienceFor issuer = some stamped → audience ≠ stamped.joined) →
          ∀ t, TurnsAway reader token issuer t := by
  obtain ⟨signingKey, -, hmint⟩ := issue_ok hkey hissue
  have hwhole : token.Whole := (ascii_of_mint hmint).whole
  constructor
  · intro other otherKey hother hname t
    refine turnsAway_of_whole hwhole fun found haccepted => ?_
    obtain ⟨expected, hexpected, hissuer, hread⟩ := verify_ok haccepted
    obtain rfl := Option.some.inj (hother.symm.trans hexpected)
    have hnamed := (parties_of_issued hkey hclaims hissue hread).1
    exact hname (Json.text.inj (Option.some.inj (hissuer.symm.trans hnamed)))
  · intro reader audience haudience hstamped t
    refine turnsAway_of_whole hwhole fun found haccepted => ?_
    obtain ⟨expected, -, -, hread⟩ := verify_ok haccepted
    have hnamed := (parties_of_issued hkey hclaims hissue hread).2
    obtain ⟨segments, -, -, hcheck⟩ := read_ok hread
    have hnames : Names found audience :=
      (inTime_of_checkClaims hcheck).2.audience audience (congrArg some haudience)
    -- The stamp is a single name or none, and never a list.
    cases hstamp : trust.audienceFor issuer with
    | none =>
      rw [hstamp] at hnamed
      rcases hnames with htext | ⟨items, hlist, -⟩
      · cases hnamed.symm.trans htext
      · cases hnamed.symm.trans hlist
    | some stamped =>
      rw [hstamp] at hnamed
      rcases hnames with htext | ⟨items, hlist, -⟩
      · exact hstamped stamped hstamp
          (Json.text.inj (Option.some.inj (htext.symm.trans hnamed)))
      · cases hnamed.symm.trans hlist

end Issued

/-- A trust in two issuers under one secret. -/
def twoIssuers (name other : Text) : TokenTrust where
  audience := some "A"
  keys
    | .authService => some { mintingKey with name := name }
    | .adminApi => some { mintingKey with name := other }
  trusted := [.authService, .adminApi]

/-- The token of the first one for a caller who claims to be the second. -/
def boastfulToken : Text :=
  ("eyJhbGciOiJIUzI1NiIsInR5cCI6IkpXVCJ9" : Text)
    ++ ".eyJpc3MiOiJhdXRoLXNlcnZpY2UiLCJhdWQiOiJBIiwiaWF0IjowLCJleHAiOjEwMH0"
    ++ ".LZSWDg0sxBglDNKcAyA8VOTV_aBmG3LsV45KSWu9Vbk"

theorem issued_isolated_boastful :
    (twoIssuers "auth-service" "admin-api").issue .authService [("iss", .text "admin-api")] none
        100 0 = .ok boastfulToken
      ∧ TurnsAway (twoIssuers "auth-service" "admin-api") boastfulToken .adminApi 50
      ∧ TurnsAway { twoIssuers "auth-service" "admin-api" with audience := some "B" } boastfulToken
        .authService 50 := by
  have hissue : (twoIssuers "auth-service" "admin-api").issue .authService
      [("iss", .text "admin-api")] none 100 0 = .ok boastfulToken :=
    ok_of_toOption (by decide +kernel)
  obtain ⟨hother, hreader⟩ := issued_isolated rfl (by decide) hissue
  refine ⟨hissue, ?_, ?_⟩
  · exact hother .adminApi _ rfl (by decide) 50
  · refine hreader _ "B" rfl ?_ 50
    rintro stamped ⟨⟩
    decide

/-- A token of an issuer whose name is the halves of another's. -/
def halvedIssuerToken : Text :=
  ("eyJhbGciOiJIUzI1NiIsInR5cCI6IkpXVCJ9" : Text)
    ++ ".eyJpc3MiOiJcdWQ4M2RcdWRlMDAiLCJhdWQiOiJBIiwiaWF0IjowLCJleHAiOjEwMH0"
    ++ ".POqE5hgdOKwK9pho5DWH4OI_qrHk3vcS7CokQh9Wx14"

/-- Two issuers are not kept apart if the name of one is the halves of the other's. -/
theorem verify_halvedIssuer :
    Text.twoHalves ≠ [CodePoint.ofNat 0x1F600]
      ∧ (twoIssuers Text.twoHalves [CodePoint.ofNat 0x1F600]).issue .authService [] none 100 0
        = .ok halvedIssuerToken
      ∧ ∃ claims, (twoIssuers Text.twoHalves [CodePoint.ofNat 0x1F600]).verify halvedIssuerToken
        .adminApi 50 = .ok claims := by
  refine ⟨by decide, ok_of_toOption (by decide +kernel), ?_⟩
  exact ⟨[("iss", .text [CodePoint.ofNat 0x1F600]), ("aud", .text "A"), ("iat", .int 0),
    ("exp", .int 100)], ok_of_toOption (by decide +kernel)⟩

end TokenTrust

end Portcullis
