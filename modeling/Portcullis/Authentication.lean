/-
# Authentication

Runs the check of a strategy against a request.  Success yields a principal; every refusal is
reported, with its data scrubbed, and ends in a fault that is safe to show.  A strategy whose
material is missing ends in a configuration fault, which is not reported here.

One strategy asks the service that declares it: the one who names the expected subject of a request
may fail, with a fault of any kind.
-/
import Portcullis.Event
import Portcullis.Peer
import Portcullis.Signature
import Portcullis.Trust

namespace Portcullis.Authentication

/-! ## 1. Reports and faults -/

/-- The logger of authentication. -/
def logger : Text := "server_engine.auth.dispatcher"

/-- Reports a step. -/
def note (message : Text) (data : Members) : Attempt Unit :=
  .report (Report.debug logger message data)

/-- The fault when the material of a strategy is missing. -/
def notConfigured {α : Type} (what : Text) : Attempt α :=
  .fail (.misconfigured (what ++ " is not configured"))

/-- The bearer token of a request, or a refusal. -/
def bearerOrRefuse (r : Request) : Attempt Text :=
  match r.bearerToken? with
  | some token => .ok token
  | none => .fail (.unauthorized "No bearer token found"
      [("authorization", .ofText? (r.header? "authorization"))])

/-! ## 2. The strategies -/

/-- The static token. -/
def static (trust : Trust) (r : Request) : Attempt Principal :=
  match trust.static with
  | none => notConfigured "Static token"
  | some secret => do
    let token ← bearerOrRefuse r
    note "Performing static authentication" [("token", .text token)]
    if ← .ofExcept (secret.check token) then return { kind := .static }
    else .fail (.unauthorized "Invalid token supplied" [("credentials", .text token)])

/-- The refusal of an access token. -/
def accessRefused (token : Text) : Fault → Fault
  | .access reason message => .web "Invalid token supplied" "unauthorized" 401
      (.ok (.object [("reason", .text reason.name), ("token", .text token)])) .null
      (some (.access reason message))
  | fault => fault

/-- The principal of accepted claims. -/
def principalOfClaims (claims : Members) : Principal where
  kind := .jwt
  subject := (claims.getD "sub").text?
  issuer := (claims.getD "iss").text?
  claims := claims
  user := (claims.getD "user").members?

/-- An access token of an issuer. -/
def jwt (trust : Trust) (issuer : Issuer) (r : Request) (now : Instant) : Attempt Principal := do
  let token ← bearerOrRefuse r
  note "Performing JWT authentication" [("token", .text token), ("issuer", .text issuer.name)]
  match trust.tokens.verify token issuer now with
  | .ok claims => return principalOfClaims claims
  | .error fault => .fail (accessRefused token fault)

/-- What is signed and the signature that is presented for it.  Requests of one method sign their
query, all others their body; a webhook signs its body as it was sent. -/
def presented (webhook : Bool) (r : Request) : Payload × Json :=
  if webhook then (.octets r.body, .ofText? (r.header? Signature.webhookHeader))
  else
    match if r.method = "GET" then .object r.queryMembers else r.jsonBody with
    | .object ms =>
      (.json (.object (Members.erase Signature.field ms)), Members.getD ms Signature.field)
    | v => (.json v, .null)

/-- A signature of the payload. -/
def hmac (trust : Trust) (secret : Option Text) (webhook : Bool) (r : Request) :
    Attempt Principal :=
  match trust.effectiveSecret secret with
  | none => notConfigured "Payload signature secret"
  | some secret =>
    let mode : SignatureMode := if webhook then .webhook else .standard
    match presented webhook r with
    | (payload, .text (c :: t)) => do
      note "Performing HMAC authentication"
        [("mode", .text (Signature.modeName mode)), ("signature", .text (c :: t))]
      if Signature.verify mode secret payload (.text (c :: t)) then return { kind := .hmac }
      else .fail (.unauthorized "Signature does not match hmac of payload"
        [("signature", .text (c :: t))])
    | _ => .fail (.unauthorized "No signature was provided" [])

/-- A client certificate. -/
def tls (trust : Trust) (whitelist : Option (List Text)) (r : Request) : Attempt Principal := do
  match ← .ofExcept (Peer.ofRequest trust.transport.trustProxy r) with
  | some ⟨true, hosts, _⟩ =>
    let allowed := whitelist.getD trust.transport.allowedHosts
    note "Performing TLS authentication" [("hosts", .texts hosts), ("whitelist", .texts allowed)]
    if Peer.isAllowed hosts allowed then return { kind := .tls, subject := hosts.head?, hosts }
    else .fail (.unauthorized "Client host is not in the whitelist" [("hosts", .texts hosts)])
  | peer => .fail (.unauthorized "TLS certificate could not be validated"
      [("error", .ofText? (peer.bind Peer.error))])

/-- The refusal when a credential that is looked up is not found. -/
def credentialMissing {α : Type} (message code header headerName field fieldName : Text) :
    Attempt α :=
  .fail (.refusal message code 400 [(header, .text headerName), (field, .text fieldName)])

/-- What an endpoint demands of a verification token, with a code that was found and the subject
that is expected. -/
def demandOf (rule : VerificationRule) (code : Option Text) (subject : Json) :
    Verification.Demand where
  action := .text rule.action
  code := if rule.requireCode then code else none
  requireCode := rule.requireCode
  subject := subject
  requireSubject := rule.requireSubject
  issuer := rule.issuer
  audience := rule.audience

/-- The principal of an accepted verification token. -/
def principalOfAccepted (accepted : Verification.Accepted) : Principal where
  kind := .verification
  subject := accepted.subject
  action := some accepted.action
  codeVerified := accepted.codeVerified

/-- A verification token that was found, and perhaps its code. -/
def verificationWith (config : Verification) (rule : VerificationRule) (r : Request)
    (now : Instant) (token : Text) (code : Option Text) : Attempt Principal :=
  if rule.requireCode && code.isNone then
    credentialMissing "Verification OTP is required" "verification_otp_missing"
      "otp_header" rule.codeHeader "otp_field" rule.codeField
  else do
    let subject ← .ofExcept (rule.expectedSubject r)
    let accepted ← .ofExcept (config.verify (demandOf rule code subject) token now)
    note "Verification token validated"
      [("action", .text accepted.action), ("subject", .ofText? accepted.subject)]
    return principalOfAccepted accepted

/-- A verification token. -/
def verification (trust : Trust) (rule : VerificationRule) (r : Request) (now : Instant) :
    Attempt Principal :=
  match trust.verification with
  | none => notConfigured "Verification token secret"
  | some config => do
    match ← .ofExcept (LookupRule.findFirst rule.tokenRules r) with
    | none =>
      credentialMissing "Verification token is required" "verification_token_missing"
        "token_header" rule.tokenHeader "token_field" rule.tokenField
    | some token =>
      let code ← .ofExcept (LookupRule.findFirst rule.codeRules r)
      verificationWith config rule r now token code

/-! ## 3. All of them -/

/-- Runs the check of a strategy. -/
def check (trust : Trust) (strategy : Strategy) (r : Request) (now : Instant) :
    Attempt Principal :=
  match strategy with
  | .none => .ok .anonymous
  | .static => static trust r
  | .jwt issuer => jwt trust issuer r now
  | .hmac secret webhook => hmac trust secret webhook r
  | .tls whitelist => tls trust whitelist r
  | .verification rule => verification trust rule r now

/-- What is reported of a refusal. -/
def reportRefusal (kind : AuthKind) (message code : Text) (data : Json) : Event :=
  Report.debug logger "Authentication failed"
    [("strategy", .text kind.name), ("error_code", .text code), ("reason", .text message),
      ("data", data)]

/-- Establishes who calls, and reports a refusal.  One whose data cannot be looked through ends in
the failure of its report. -/
def authenticate (trust : Trust) (strategy : Strategy) (r : Request) (now : Instant) :
    Attempt Principal :=
  (check trust strategy r now).recover fun
    | .web message code status data hint cause => do
      .report (reportRefusal strategy.kind message code (← .ofExcept data))
      .fail (.web message code status data hint cause)
    | fault => .fail fault

/-! ## 4. At an endpoint -/

/-- Establishes who calls an endpoint.  With `acceptInvalid` a refusal is reported and the caller
goes on as anonymous. -/
def attach (trust : Trust) (strategy : Strategy) (acceptInvalid : Bool) (r : Request)
    (now : Instant) : Attempt Principal :=
  (authenticate trust strategy r now).recover fun fault =>
    if acceptInvalid && fault.isWeb then do
      .report (← .ofExcept (Report.fault fault (some r)))
      return .anonymous
    else .fail fault

/-- Refuses a principal that lacks a required permission. -/
def requirePermissions (required : List Text) (p : Principal) : Except Fault Principal :=
  if Permission.coversAll p.permissions required then .ok p
  else .error (.refusal "Principal lacks a required permission" "forbidden" 403
    [("required", .texts required), ("granted", .texts p.permissions)])

end Portcullis.Authentication
