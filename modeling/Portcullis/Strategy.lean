/-
# Strategies

How an endpoint establishes who calls it: one of six ways, each with its own options.
-/
import Portcullis.Access
import Portcullis.Credential

namespace Portcullis

/-- The options of verification tokens at an endpoint. -/
structure VerificationRule where
  action : Text
  requireCode : Bool := true
  tokenHeader : Text := "x-verification-token"
  codeHeader : Text := "x-verification-otp"
  tokenField : Text := "verificationToken"
  codeField : Text := "verificationOtp"
  /-- Names the expected subject of a request, `null` for none, or fails; without it the identity
  that the request already carries does. -/
  subjectResolver : Option (Request → Except Fault Json) := none
  requireSubject : Bool := false
  issuer : Option Text := none
  audience : Option Text := none

namespace VerificationRule

/-- Where the token is looked up. -/
def tokenRules (v : VerificationRule) : List LookupRule :=
  LookupRule.everywhere v.tokenHeader v.tokenField

/-- Where the code is looked up. -/
def codeRules (v : VerificationRule) : List LookupRule :=
  LookupRule.everywhere v.codeHeader v.codeField

/-- The subject that a request expects of its token.  It is asked for in a coroutine. -/
def expectedSubject (v : VerificationRule) (r : Request) : Except Fault Json :=
  match v.subjectResolver with
  | some resolve => (resolve r).mapError Fault.leavingCoroutine
  | none => .ok (match r.identity with
    | .principal p => .ofText? p.subject
    | _ => .null)

end VerificationRule

/-- A way to establish who calls. -/
inductive Strategy where
  /-- Everyone may call. -/
  | none
  /-- An access token of an issuer. -/
  | jwt (issuer : Issuer)
  /-- A signature of the payload, under a secret of the endpoint or of the service. -/
  | hmac (secret : Option Text) (webhook : Bool)
  /-- The one static token. -/
  | static
  /-- A client certificate; a list of its own replaces the service's list of allowed hosts. -/
  | tls (whitelist : Option (List Text))
  /-- A verification token. -/
  | verification (rule : VerificationRule)

/-- The kind of a strategy. -/
def Strategy.kind : Strategy → AuthKind
  | none => .none
  | jwt _ => .jwt
  | hmac .. => .hmac
  | static => .static
  | tls _ => .tls
  | verification _ => .verification

end Portcullis
