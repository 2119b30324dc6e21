/-
# Trust

Everything that decisions about requests rest on: the keys of issuers, the secrets, and what is
known of the transport.  It is built once, from settings and key files; a strategy whose material is
missing is refused before any request comes.
-/
import Portcullis.Settings
import Portcullis.Strategy
import Portcullis.Verification

namespace Portcullis

/-! ## 1. Material -/

/-- What is known of encrypted transport. -/
structure TransportTrust where
  serverKey : Option Text
  serverCertificate : Option Text
  clientAuthority : Option Text
  allowedHosts : List Text
  trustProxy : Bool

/-- Whether the service ends encrypted connections itself or a trusted proxy does. -/
def TransportTrust.isEnabled (t : TransportTrust) : Bool :=
  (t.serverKey.isSome && t.serverCertificate.isSome) || t.trustProxy

/-- The material of trust. -/
structure Trust where
  tokens : TokenTrust
  signatureSecret : Option Text
  static : Option StaticSecret
  verification : Option Verification
  transport : TransportTrust

namespace Trust

/-! ## 2. Building -/

/-- A text that is there and not empty. -/
def filled? : Option Text → Option Text
  | some (c :: t) => some (c :: t)
  | _ => none

/-- The files of keys: the octets at a path, or why there are none. -/
abbrev Files := Text → Except Fault.Kind Bytes

/-- The text with every line end as a single line feed. -/
def unifyLineEnds : Text → Text
  | [] => []
  | c :: d :: rest =>
    if c.val = 0x0D then
      if d.val = 0x0A then d :: unifyLineEnds rest
      else CodePoint.ofNat 0x0A :: unifyLineEnds (d :: rest)
    else c :: unifyLineEnds (d :: rest)
  | [c] => [if c.val = 0x0D then CodePoint.ofNat 0x0A else c]

/-- The text of a key file. -/
def readKey (files : Files) (path : Text) : Except Fault Text :=
  match files path with
  | .error kind => .error (.configuration (("Cannot read key file " : Text) ++ path) (.ok .null)
      .null (some (.ofKind kind)))
  | .ok bytes => match Utf8.decode? bytes with
    | none => .error (.ofKind .decoding)
    | some t => .ok (unifyLineEnds t)

/-- The key of an issuer: a shared secret for the algorithms that take one, and files for the
others.  An issuer without material has no key. -/
def issuerKey (files : Files) (s : IssuerSettings) (audience : Option Text) :
    Except Fault (Option IssuerKey) :=
  if s.algorithm.upper.startsWith "HS" then
    .ok ((filled? s.secret).map fun secret => ⟨s.name, s.algorithm, secret, some secret, audience⟩)
  else match s.publicKeyFile with
    | none => .ok none
    | some path => do
      let verifyKey ← readKey files path
      let signingKey ← match s.privateKeyFile with
        | some path => some <$> readKey files path
        | none => pure none
      return some ⟨s.name, s.algorithm, verifyKey, signingKey, audience⟩

/-- The issuers in a list of names. -/
def trustedIssuers (raw : Text) : Except Fault (List Issuer) :=
  match (Settings.items raw).mapM Issuer.ofName? with
  | some issuers => .ok issuers
  | none => .error (.configuration "ENGINE_TRUSTED_ISSUERS contains an unknown issuer"
      (.ok (.object [("trusted_issuers", .text raw)])) .null (some (.ofKind .value)))

/-- The trust that settings and key files describe. -/
def ofSettings (files : Files) (s : Settings) : Except Fault Trust := do
  let authKey ← issuerKey files s.authService none
  let adminKey ← issuerKey files s.adminApi s.adminApi.audience
  let trusted ← trustedIssuers s.trustedIssuers
  let static ← match filled? s.staticToken with
    | some secret => some <$> StaticSecret.ofText secret
    | none => pure none
  return {
    tokens := {
      audience := s.authService.audience
      keys := fun | .authService => authKey | .adminApi => adminKey
      trusted }
    signatureSecret := s.signatureSecret
    static
    verification := (filled? s.verification.secret).map fun secret => {
      secret
      issuer := s.verification.issuer
      audience := s.verification.audience
      codeSecret := s.verification.codeSecret }
    transport := {
      serverKey := s.transport.serverKey
      serverCertificate := s.transport.serverCertificate
      clientAuthority := s.transport.clientAuthority
      allowedHosts := Settings.items s.transport.allowedHosts
      trustProxy := s.transport.trustProxy } }

/-! ## 3. Requirements -/

/-- The secret that a payload signature is checked under. -/
def effectiveSecret (trust : Trust) (secret : Option Text) : Option Text :=
  (filled? secret) <|> (filled? trust.signatureSecret)

/-- Refuses a strategy whose material is missing. -/
def require (trust : Trust) : Strategy → Except Fault Unit
  | .none => .ok ()
  | .jwt issuer =>
    if (trust.tokens.keys issuer).isNone then
      .error (.misconfigured (("No verification key configured for issuer " : Text) ++ issuer.name))
    else if (filled? (trust.tokens.audienceFor issuer)).isNone then
      .error (.misconfigured "ENGINE_ACCESS_TOKEN_AUDIENCE is not defined")
    else .ok ()
  | .hmac secret _ =>
    if (trust.effectiveSecret secret).isNone then
      .error (.misconfigured "ENGINE_PAYLOAD_SIGNATURE_SECRET is not defined")
    else .ok ()
  | .static =>
    if trust.static.isNone then .error StaticSecret.undefined else .ok ()
  | .tls _ =>
    if trust.transport.isEnabled then .ok ()
    else .error (.misconfigured
      "ENGINE_TLS_SERVER_KEY and ENGINE_TLS_SERVER_CERT must be defined for TLS endpoints")
  | .verification _ =>
    if trust.verification.isNone then
      .error (.misconfigured "ENGINE_VERIFICATION_TOKEN_SECRET is not defined")
    else .ok ()

end Trust

end Portcullis
