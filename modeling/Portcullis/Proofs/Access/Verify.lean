/-
# What an accepted access token is like

An accepted token was signed by the algorithm of the issuer's key, under that key, and its second
segment holds the claims that are returned (`SignedBy`); the claims hold for the issuer's audience
at the time, and name the issuer.

**Main statement.**  `verify_accepted`.
-/
import Portcullis.Access
import Portcullis.Proofs.Token.Claims

namespace Portcullis

namespace Token

/-- A signature that is valid under a shared secret is its authentication code, and the secret is no
text of a public key. -/
theorem Algorithm.verify_hmac_ok {hash : Hash} {key : Text} {message signature : Bytes}
    (h : (Algorithm.hmac hash).verify key message signature = .ok true) :
    ∃ secret, key.utf8? = some secret ∧ isAsymmetricKey key secret = false
      ∧ signature = hash.hmac secret message := by
  obtain ⟨secret, hsecret, heq⟩ := bind_eq_ok h
  obtain ⟨hoctets, hasymmetric⟩ := secretBytes_ok hsecret
  exact ⟨secret, hoctets, hasymmetric, (beq_iff_eq.mp (Except.ok.inj heq)).symm⟩

/-- The three segments of the token are a header that names the key's algorithm, these claims, and
a signature of the first two by that algorithm under the key. -/
inductive SignedBy (key : IssuerKey) (token : Text) (claims : Members) : Prop
  | mk {first second third : Text} (segments : Text.splitOn dot token = [first, second, third])
      {header : Members} {headerOctets : Bytes}
      (firstOctets : Base64.decode Base64.urlSafe first = some headerOctets)
      (headerObject : Json.readBytes headerOctets = .ok (.object header))
      (named : Members.get? "alg" header = some (.text key.algorithm))
      {payload : Bytes} (secondOctets : Base64.decode Base64.urlSafe second = some payload)
      (claimsObject : Json.readBytes payload = .ok (.object claims))
      {a : Algorithm} (algorithm : Algorithm.ofName? key.algorithm = some a)
      {message signature : Bytes} (signed : Text.utf8? (first ++ dot :: second) = some message)
      (thirdOctets : Base64.decode Base64.urlSafe third = some signature)
      (valid : a.verify key.verifyKey message signature = .ok true)
      (shared : ∀ name hash, Members.get? "alg" header = some (.text name) →
        Algorithm.ofName? name = some (.hmac hash) →
        a = .hmac hash ∧ ∃ secret, key.verifyKey.utf8? = some secret
          ∧ isAsymmetricKey key.verifyKey secret = false
          ∧ signature = hash.hmac secret message)

/-- A token that is read under a key is signed by it. -/
theorem signedBy_of_authenticate {key : IssuerKey} {token : Text} {segments : Segments}
    {claims : Members} (h : authenticate key.algorithm key.verifyKey token = .ok segments)
    (hclaims : Json.readBytes segments.payload = .ok (.object claims)) :
    SignedBy key token claims := by
  obtain ⟨hread, hnamed, a, halgorithm, hvalid⟩ := authenticate_ok h
  obtain ⟨first, second, third, octets, hsplit, hfirst, hheader, hsecond, hthird, hsigned⟩ :=
    Segments.read_ok hread
  refine .mk hsplit hfirst hheader hnamed hsecond hclaims halgorithm hsigned hthird hvalid ?_
  intro name hash hname hhash
  have heq : key.algorithm = name := Json.text.inj (Option.some.inj (hnamed.symm.trans hname))
  rw [← heq, halgorithm] at hhash
  obtain rfl := Option.some.inj hhash
  exact ⟨rfl, Algorithm.verify_hmac_ok hvalid⟩

end Token

namespace TokenTrust

open Token

/-- **An accepted token** is of a trusted issuer that has a key, is signed by that key and holds the
claims that are returned; these are present, in time and for the issuer's audience, and name the
issuer. -/
theorem verify_accepted {trust : TokenTrust} {issuer : Issuer} {audience : Text}
    (haudience : trust.audienceFor issuer = some audience) {token : Text} {now : Instant}
    {claims : Members} (h : trust.verify token issuer now = .ok claims) :
    ∃ key, trust.keys issuer = some key ∧ issuer ∈ trust.trusted ∧ SignedBy key token claims
      ∧ Holds claims ["exp", "iat", "iss", "aud"] audience now
      ∧ claims.get? "iss" = some (.text key.name) := by
  rw [verify] at h
  cases hkey : trust.keys issuer with
  | none =>
    rw [hkey] at h
    cases h
  | some key =>
    rw [hkey] at h
    simp only at h
    split at h
    · cases h
    next read hread =>
    split at h
    next hissuer =>
      obtain rfl := Except.ok.inj h
      obtain ⟨htrusted, hclaimed⟩ := (Bool.and_eq_true _ _).mp hissuer
      obtain ⟨segments, hsegments, hobject, hcheck⟩ := read_ok hread
      have hexpected : (trust.expectations issuer).audience = some (some audience) :=
        congrArg some haudience
      refine ⟨key, rfl, List.contains_iff_mem.mp htrusted,
        signedBy_of_authenticate hsegments hobject, holds_of_checkClaims hexpected hcheck, ?_⟩
      exact Members.get?_of_getD (beq_iff_eq.mp hclaimed) rfl
    · cases h

/-- A trust in one issuer with a shared secret. -/
def sharedKeyTrust : TokenTrust where
  audience := some "A"
  keys := fun _ => some ⟨"auth-service", "HS256", "correct horse battery staple", none, none⟩
  trusted := [.authService]

/-- A token of that issuer, for a list of audiences. -/
def sharedKeyToken : Text :=
  ("eyJhbGciOiJIUzI1NiJ9" : Text)
    ++ ".eyJpc3MiOiJhdXRoLXNlcnZpY2UiLCJhdWQiOlsiQSJdLCJpYXQiOjAsImV4cCI6MTAwfQ"
    ++ ".57vbzKhKdNJk2fXsZb4xzaxSiME7fFX8K40h-QHWGnA"

/-- The claims in it. -/
def sharedKeyClaims : Members :=
  [("iss", .text "auth-service"), ("aud", .list [.text "A"]), ("iat", .int 0), ("exp", .int 100)]

theorem verify_sharedKeyToken :
    sharedKeyTrust.verify sharedKeyToken .authService 50 = .ok sharedKeyClaims
      ∧ ∃ key, sharedKeyTrust.keys .authService = some key
        ∧ SignedBy key sharedKeyToken sharedKeyClaims
        ∧ Holds sharedKeyClaims ["exp", "iat", "iss", "aud"] "A" 50 := by
  have haccepted : sharedKeyTrust.verify sharedKeyToken .authService 50 = .ok sharedKeyClaims :=
    ok_of_toOption (by decide +kernel)
  have haudience : sharedKeyTrust.audienceFor .authService = some "A" := rfl
  obtain ⟨key, hkey, -, hsigned, hholds, -⟩ := verify_accepted haudience haccepted
  exact ⟨haccepted, key, hkey, hsigned, hholds⟩

end TokenTrust

end Portcullis
