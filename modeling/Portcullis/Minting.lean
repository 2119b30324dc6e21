/-
# Minting for local work

Outside production a service mints credentials on request: access tokens of its issuers, and
verification tokens with their codes.  Both take a form, and both answer that something is not
configured when the material is missing.
-/
import Portcullis.Form
import Portcullis.Trust

namespace Portcullis

/-- The circumstances of a request: the time, an identifier that is given out, and the digits that
one-time codes are made of. -/
structure Moment where
  now : Instant
  identifier : Text
  digits : Nat → Fin 10

namespace Minting

/-! ## 1. Forms -/

/-- What is submitted for an access token. -/
def accessForm : Schema := ⟨"AccessForm", [
  ⟨"subject", .boundedText 1 256, none⟩,
  ⟨"issuer", .choice [Issuer.authService.name, Issuer.adminApi.name],
    some (.text Issuer.authService.name)⟩,
  ⟨"claims", .object, some (.object [])⟩,
  ⟨"ttl_minutes", .boundedInteger 1 1440, some (.int 60)⟩]⟩

/-- What is submitted for a verification token. -/
def verificationForm : Schema := ⟨"VerificationForm", [
  ⟨"action", .boundedText 1 128, none⟩,
  ⟨"subject", .optionalBoundedText 256, some .null⟩,
  ⟨"with_otp", .switch, some (.bool true)⟩,
  ⟨"ttl_seconds", .boundedInteger 30 3600, some (.int 300)⟩]⟩

/-- The integer that a value is, or zero. -/
def integerOf : Json → Int
  | .int i => i
  | _ => 0

/-- The order for a verification token that a form makes. -/
def orderOf (fields : Members) : Verification.Order where
  action := fields.getD "action"
  subject := (fields.getD "subject").text?
  withCode := fields.getD "with_otp" == .bool true
  lifetime := fields.getD "ttl_seconds"

/-! ## 2. Results -/

/-- What came of a request for a credential: the outcome, and how many digits were drawn. -/
structure Run where
  outcome : Except Fault Response
  drawn : Nat := 0

/-- The response when something is not configured. -/
def notConfigured (what : Text) : Response := .ofDetail 404 (what ++ " not configured")

/-- The response with a minted access token. -/
def accessResult (token : Text) : Except Fault Response :=
  Response.ofResult 200 (.object [("access_token", .text token), ("token_type", .text "bearer")])

/-- The response with a minted verification token. -/
def verificationResult (minted : Verification.Minted) : Except Fault Response :=
  Response.ofResult 200 (.object [
    ("verification_token", .text minted.token), ("otp", .ofText? minted.code),
    ("action", .text minted.action), ("expires_at", .num minted.expiresAt)])

/-- The response to an accepted form for an access token. -/
def mintAccess (trust : Trust) (fields : Members) (m : Moment) : Except Fault Response :=
  let issuer := ((fields.getD "issuer").text?.bind Issuer.ofName?).getD .authService
  let span : Rat := (integerOf (fields.getD "ttl_minutes") * 60 : Int)
  match trust.tokens.issue issuer ((fields.getD "claims").members?.getD [])
      (fields.getD "subject").text? span (Instant.toMicroseconds m.now) Instant.stamp with
  | .ok token => accessResult token
  | .error (.access ..) => .ok (notConfigured "Issuer")
  | .error fault => .error fault

/-- The response to an accepted form for a verification token. -/
def mintVerification (trust : Trust) (fields : Members) (m : Moment) : Run :=
  match trust.verification with
  | none => ⟨.ok (notConfigured "Verification tokens"), 0⟩
  | some config =>
    let order := orderOf fields
    let drawn := order.drawn
    match config.issue order m.now m.identifier m.digits with
    | .ok minted => ⟨verificationResult minted, drawn⟩
    | .error fault => ⟨.error fault, drawn⟩

/-- The response to a request for an access token. -/
def access (trust : Trust) (r : Request) (m : Moment) : Run :=
  match Form.read accessForm r with
  | .error fault => ⟨.error fault, 0⟩
  | .ok (.error refusal) => ⟨refusal.response, 0⟩
  | .ok (.ok fields) => ⟨mintAccess trust fields m, 0⟩

/-- The response to a request for a verification token. -/
def verification (trust : Trust) (r : Request) (m : Moment) : Run :=
  match Form.read verificationForm r with
  | .error fault => ⟨.error fault, 0⟩
  | .ok (.error refusal) => ⟨refusal.response, 0⟩
  | .ok (.ok fields) => mintVerification trust fields m

end Minting

end Portcullis
