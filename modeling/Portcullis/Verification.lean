/-
# Verification tokens

A verification token authorises one sensitive action for a few minutes.  It may be bound to a
subject and to a one-time code: the token holds only a keyed digest of the code, which travels
another way and has to be presented beside the token.
-/
import Portcullis.Bytes.Hex
import Portcullis.Instant
import Portcullis.Text.Blank
import Portcullis.Text.Casing
import Portcullis.Token.Compact

namespace Portcullis

/-! ## 1. Configuration and contents -/

/-- The secret of verification tokens, who issues them and for whom. -/
structure Verification where
  secret : Text
  issuer : Text
  audience : Option Text
  /-- The secret for the digests of one-time codes, if it is one of its own. -/
  codeSecret : Option Text

namespace Verification

/-- The text if it is there and not empty, and otherwise what stands in for it. -/
def orElse (override : Option Text) (fallback : Option Text) : Option Text :=
  match override with
  | some (c :: t) => some (c :: t)
  | _ => fallback

/-- The key for the digests of one-time codes. -/
def codeKey (config : Verification) : Text := (orElse config.codeSecret none).getD config.secret

/-- The issuer that is named and expected: an override unless it is empty. -/
def issuerFor (config : Verification) (override : Option Text) : Text :=
  (orElse override none).getD config.issuer

/-- The audience that is named and expected. -/
def audienceFor (config : Verification) (override : Option Text) : Option Text :=
  orElse override config.audience

/-- A token that has been minted, with the code to deliver another way. -/
structure Minted where
  token : Text
  code : Option Text
  expiresAt : Double
  action : Text

/-- What an accepted token says. -/
structure Accepted where
  action : Text
  identifier : Text
  subject : Option Text
  codeBound : Bool
  codeVerified : Bool
  issuer : Json
  expiresAt : Json

/-! ## 2. Actions, codes and lifetimes -/

/-- An action as tokens name it: trimmed and in capitals. -/
def normalizeAction (action : Json) : Except Fault Text :=
  match action with
  | .text t =>
    if t.isBlank then refused else .ok t.strip.upper
  | _ => refused
where
  /-- The failure for what is no action. -/
  refused : Except Fault Text :=
    .error (.internal "Verification token action must be a non-empty string" [("action", action)])

/-- The length of a code, an integer from 4 to 10. -/
def codeLength (length : Json) : Except Fault Nat :=
  match length with
  | .int (.ofNat n) => if 4 ≤ n ∧ n ≤ 10 then .ok n else refused
  | _ => refused
where
  /-- The failure for what is no length. -/
  refused : Except Fault Nat :=
    .error (.internal "OTP length must be an integer between 4 and 10" [("length", length)])

/-- The shortest lifetime in seconds. -/
def minLifetime : Nat := 30

/-- A lifetime, an integer that is not below the shortest. -/
def lifetime (seconds : Json) : Except Fault Nat :=
  match seconds with
  | .int (.ofNat n) => if minLifetime ≤ n then .ok n else refused
  | _ => refused
where
  /-- The failure for what is no lifetime. -/
  refused : Except Fault Nat :=
    .error (.internal (("Verification token expiration must be at least " : Text)
      ++ Text.decimal minLifetime ++ " seconds") [("ttl_seconds", seconds)])

/-- The keyed digest of a code, in hexadecimal digits. -/
def codeDigest (code key : Text) : Except Fault Text :=
  match key.utf8?, code.utf8? with
  | some key, some code => .ok (Bytes.hex (Hash.sha256.hmac key code))
  | _, _ => .error (.ofKind .encoding)

/-- A code of the first digits of a source. -/
def codeFrom (source : Nat → Fin 10) (length : Nat) : Text :=
  (List.range length).flatMap fun i => Text.decimal (source i).val

/-- A code whose length is given as it came. -/
def generateCode (source : Nat → Fin 10) (length : Json) : Except Fault Text :=
  (codeFrom source) <$> codeLength length

/-! ## 3. Minting -/

/-- What a token is minted for. -/
structure Order where
  action : Json
  subject : Option Text := none
  withCode : Bool := true
  length : Json := .int 6
  lifetime : Json := .int 300
  issuer : Option Text := none
  audience : Option Text := none

/-- How many digits of its source an order uses up; one that is refused for its action, its lifetime
or its length uses none. -/
def Order.drawn (order : Order) : Nat :=
  match normalizeAction order.action, Verification.lifetime order.lifetime,
      codeLength order.length with
  | .ok _, .ok _, .ok n => if order.withCode then n else 0
  | _, _, _ => 0

/-- The claims of a token. -/
def claimsFor (config : Verification) (order : Order) (action identifier : Text)
    (issuedAt expiry : Int) (digest : Option Text) : Members :=
  let optional (name : Text) (value : Option Text) : Members :=
    match value with
    | some t => [(name, .text t)]
    | none => []
  let always : Members := [
    ("act", .text action), ("jti", .text identifier),
    ("iss", .text (config.issuerFor order.issuer)), ("iat", .int issuedAt), ("exp", .int expiry)]
  always ++ optional "otp" digest ++ optional "sub" order.subject
    ++ optional "aud" (orElse (config.audienceFor order.audience) none)

/-- The algorithm of verification tokens. -/
def algorithm : Text := "HS256"

/-- Mints a token at an instant, with an identifier and a source of digits for the code.  An end of
more digits than a text may have cannot be written. -/
def issue (config : Verification) (order : Order) (now : Instant) (identifier : Text)
    (source : Nat → Fin 10) : Except Fault Minted := do
  let action ← normalizeAction order.action
  let span ← lifetime order.lifetime
  let issuedAt := Instant.wholeSeconds now
  let expiry := issuedAt + span
  let code ← if order.withCode then some <$> generateCode source order.length else pure none
  let digest ← match code with
    | some c => some <$> codeDigest c config.codeKey
    | none => pure none
  if Nat.pow 10 Text.maxDigits ≤ expiry.natAbs then .error (.ofKind .value)
  let token ← Token.mint algorithm config.secret
    (config.claimsFor order action identifier issuedAt expiry digest)
  match Double.ofInt expiry with
  | .infinite _ => .error (.ofKind .overflow)
  | expiresAt => return ⟨token, code, expiresAt, action⟩

/-! ## 4. Verifying -/

/-- What is expected of a token. -/
structure Demand where
  action : Json := .null
  code : Option Text := none
  requireCode : Bool := false
  /-- The expected subject, `null` for none. -/
  subject : Json := .null
  requireSubject : Bool := false
  issuer : Option Text := none
  audience : Option Text := none

/-- The refusal of a token that does not fit what is demanded. -/
def mismatch (message : Text) (data : Members) : Fault :=
  .refusal message "verification_failed" 403 data

/-- The refusal when a code is required and missing. -/
def codeMissing : Fault := .refusal "Verification OTP is required" "verification_otp_missing" 400 []

/-- A code that is there and not empty. -/
def givenCode (demand : Demand) : Option Text := orElse demand.code none

/-- What is expected of the registered claims. -/
def expectations (config : Verification) (demand : Demand) : Token.Expectations where
  required := ["exp", "iat", "iss"]
  issuer := some (config.issuerFor demand.issuer)
  audience := (config.audienceFor demand.audience).map some

/-- The claims of a token under the secret. -/
def readToken (config : Verification) (demand : Demand) (token : Text) (now : Instant) :
    Except Fault Members :=
  match Token.read algorithm config.secret (config.expectations demand) now token with
  | .error (.token flaw) =>
    .error (.web "Invalid verification token supplied" "unauthorized" 401 (.ok .null) .null
      (some (.token flaw)))
  | result => result

/-- A text that is there and not empty. -/
def filledText? : Json → Option Text
  | .text (c :: t) => some (c :: t)
  | _ => none

/-- The action and the identifier of a token. -/
def readIdentity (claims : Members) : Except Fault (Text × Text) :=
  match filledText? (claims.getD "act"), filledText? (claims.getD "jti") with
  | some action, some identifier => .ok (action, identifier)
  | _, _ => .error (.refusal "Malformed verification token payload" "unauthorized" 401 [])

/-- Checks the action of a token against the expected one, if one is expected. -/
def checkAction (demand : Demand) (action : Text) : Except Fault Unit :=
  if demand.action.isNull then .ok ()
  else do
    let expected ← normalizeAction demand.action
    if action = expected then return ()
    else .error (mismatch "Verification action mismatch"
      [("expected", .text expected), ("actual", .text action)])

/-- Checks the subject of a token: a token without one fits every expected subject. -/
def checkSubject (demand : Demand) (claims : Members) : Except Fault Unit :=
  match filledText? (claims.getD "sub") with
  | none =>
    if demand.requireSubject then .error (mismatch "Verification token missing subject" [])
    else .ok ()
  | some subject =>
    if demand.subject.isNull || demand.subject == .text subject then .ok ()
    else .error (mismatch "Verification subject mismatch"
      [("expected", demand.subject), ("actual", .text subject)])

/-- Whether a presented code is the one whose digest a token holds.  Digests are compared as ASCII
texts; anything else in that place cannot be compared. -/
def checkCode (config : Verification) (demand : Demand) (bound : Json) : Except Fault Bool :=
  match givenCode demand with
  | none => .ok false
  | some code => match bound with
    | .text digest => do
      let expected ← codeDigest code config.codeKey
      if !digest.isAscii then .error (.ofKind .type)
      else if digest = expected then return true
      else .error (mismatch "Verification OTP mismatch" [])
    | _ => .error (mismatch "Verification OTP mismatch" [])

/-- What a token says, if it meets a demand at an instant. -/
def verify (config : Verification) (demand : Demand) (token : Text) (now : Instant) :
    Except Fault Accepted :=
  if demand.requireCode && (givenCode demand).isNone then .error codeMissing
  else do
    let claims ← config.readToken demand token now
    let (action, identifier) ← readIdentity claims
    checkAction demand action
    checkSubject demand claims
    let bound := claims.getD "otp"
    let verified ← config.checkCode demand bound
    return {
      action, identifier
      subject := (claims.getD "sub").text?
      codeBound := bound.text?.isSome
      codeVerified := verified
      issuer := claims.getD "iss"
      expiresAt := claims.getD "exp" }

end Verification

end Portcullis
