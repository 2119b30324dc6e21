/-
# Access tokens

A service trusts tokens of issuers.  Each issuer has its own key and name, and perhaps an audience
of its own in place of the service's.  A token is accepted for one expected issuer; the membership
of the issuer in the trusted ones is the last thing that is checked.

Whatever the caller claims, a minted token carries the issuer's name, the audience and the times
that the issuer stands for.
-/
import Portcullis.Instant
import Portcullis.Token.Compact

namespace Portcullis

/-! ## 1. Issuers -/

/-- Who issues access tokens. -/
inductive Issuer where
  | authService
  | adminApi
deriving DecidableEq

/-- The name of an issuer in settings. -/
def Issuer.name : Issuer → Text
  | authService => "auth_service"
  | adminApi => "admin_api"

/-- The issuer of a name. -/
def Issuer.ofName? (name : Text) : Option Issuer :=
  [Issuer.authService, Issuer.adminApi].find? fun i => i.name == name

/-- The key of an issuer, the name its tokens carry and the audience they are for. -/
structure IssuerKey where
  name : Text
  algorithm : Text
  verifyKey : Text
  signingKey : Option Text
  audience : Option Text

/-- The keys of issuers, the issuers that are trusted, and the audience of the service. -/
structure TokenTrust where
  audience : Option Text
  keys : Issuer → Option IssuerKey
  trusted : List Issuer

namespace TokenTrust

/-- The audience that tokens of an issuer are for: its own unless that is empty. -/
def audienceFor (trust : TokenTrust) (issuer : Issuer) : Option Text :=
  match (trust.keys issuer).bind IssuerKey.audience with
  | some (c :: t) => some (c :: t)
  | _ => trust.audience

/-! ## 2. Minting -/

/-- The claims of a token: the registered ones replace those of the caller. -/
def claimsFor (trust : TokenTrust) (issuer : Issuer) (key : IssuerKey) (claims : Members)
    (subject : Option Text) (issuedAt expiry : Int) : Members :=
  let registered : Members := [
    ("iss", .text key.name), ("aud", .ofText? (trust.audienceFor issuer)),
    ("iat", .int issuedAt), ("exp", .int expiry)]
  let bound := match subject with
    | some s => [(("sub" : Text), Json.text s)]
    | none => []
  claims.setAll (registered ++ bound)

/-- Mints a token that lives for a span of seconds from an instant on; `stamp` tells the second that
an instant is written down as. -/
def issue (trust : TokenTrust) (issuer : Issuer) (claims : Members) (subject : Option Text)
    (span : Rat) (now : Instant) (stamp : Instant → Int := Instant.wholeSeconds) :
    Except Fault Text :=
  match trust.keys issuer with
  | some key => match key.signingKey with
    | some signingKey =>
      if !Instant.hasDate (now + span) then .error (.ofKind .overflow)
      else
        let claims := trust.claimsFor issuer key claims subject (stamp now) (stamp (now + span))
        Token.mint key.algorithm signingKey claims
    | none => noSigningKey
  | none => noSigningKey
where
  /-- The refusal when the issuer has no key to sign with. -/
  noSigningKey : Except Fault Text :=
    .error (.access .unknownIssuer (("No signing key configured for " : Text) ++ issuer.name))

/-! ## 3. Verifying -/

/-- The stage at which a flaw of a token shows. -/
def reasonOf (flaw : Token.Flaw) : Reason :=
  match flaw.kind with
  | .expired => .expired
  | .audience => .audienceMismatch
  | .signature | .algorithm => .invalidSignature
  | _ => .malformed

/-- A flaw of a token as a refusal at its stage; other faults stay. -/
def refuse : Fault → Fault
  | .token flaw => .access (reasonOf flaw) flaw.message
  | fault => fault

/-- What is expected of the claims of a token for an issuer. -/
def expectations (trust : TokenTrust) (issuer : Issuer) : Token.Expectations where
  required := ["exp", "iat", "iss", "aud"]
  issuer := none
  audience := some (trust.audienceFor issuer)

/-- The claims of a token of an expected issuer, if it is accepted at an instant. -/
def verify (trust : TokenTrust) (token : Text) (issuer : Issuer) (now : Instant) :
    Except Fault Members :=
  match trust.keys issuer with
  | none =>
    .error (.access .unknownIssuer (("No key configured for " : Text) ++ issuer.name))
  | some key =>
    match Token.read key.algorithm key.verifyKey (trust.expectations issuer) now token with
    | .error fault => .error (refuse fault)
    | .ok claims =>
      let claimed := claims.getD "iss"
      if trust.trusted.contains issuer && claimed == .text key.name then .ok claims
      else .error (.access .issuerNotTrusted
        (("Issuer " : Text) ++ claimed.shown ++ " is not trusted"))

end TokenTrust

end Portcullis
