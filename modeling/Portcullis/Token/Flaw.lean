/-
# Why a compact token is refused

Each flaw is a cause; its kind and its message follow from it.  The flaws stand in the order in
which they are looked for.
-/
import Portcullis.Text.Basic

namespace Portcullis.Token

/-! ## 1. Causes -/

/-- What is wrong with a token. -/
inductive Flaw where
  /-- There are not two dots. -/
  | tooFewSegments
  /-- The first segment is not in base 64. -/
  | headerDigits
  /-- The header is no JSON text. -/
  | headerText
  /-- The header is no object. -/
  | headerKind
  /-- The payload is said to be detached, but there is one. -/
  | payloadNotDetached
  /-- The second segment is not in base 64. -/
  | payloadDigits
  /-- The third segment is not in base 64. -/
  | signatureDigits
  /-- The key identifier is no text. -/
  | keyIdKind
  /-- The list of critical extensions is no list or empty. -/
  | criticalKind
  /-- A critical extension is no text. -/
  | criticalItemKind
  /-- A critical extension is not known. -/
  | criticalUnknown (name : Text)
  /-- A critical extension is not in the header. -/
  | criticalAbsent (name : Text)
  /-- The payload is detached, but that is not said to be critical. -/
  | detachedNotCritical
  /-- The payload is detached. -/
  | detached
  /-- The header names no algorithm. -/
  | algorithmAbsent
  /-- The header names an algorithm that is not the key's. -/
  | algorithmNotAllowed
  /-- The algorithm does not exist. -/
  | algorithmUnknown
  /-- The signature is not the key's. -/
  | signatureWrong
  /-- The payload is no JSON text. -/
  | payloadText
  /-- The payload is no object. -/
  | payloadKind
  /-- A claim that is required is absent or null. -/
  | claimAbsent (name : Text)
  /-- The time of issue is no integer. -/
  | issuedAtKind
  /-- The time of issue is still to come. -/
  | issuedLater
  /-- The beginning of the lifetime is no integer. -/
  | notBeforeKind
  /-- The lifetime has not begun. -/
  | notYetValid
  /-- The end of the lifetime is no integer. -/
  | expiryKind
  /-- The lifetime has ended. -/
  | expired
  /-- The issuer is no text. -/
  | issuerKind
  /-- The issuer is another. -/
  | issuerWrong
  /-- There is an audience where none is expected. -/
  | audienceUnexpected
  /-- The audience is neither a text nor a list of texts. -/
  | audienceKind
  /-- The audience is another. -/
  | audienceWrong
  /-- The subject is no text. -/
  | subjectKind
  /-- The identifier is no text. -/
  | identifierKind
deriving DecidableEq

namespace Flaw

/-! ## 2. Kinds -/

/-- The kinds of flaws that callers tell apart. -/
inductive Kind where
  | decoding
  | other
  | signature
  | algorithm
  | missingClaim
  | issuedAt
  | immature
  | expired
  | issuer
  | audience
  | subject
  | identifier
deriving DecidableEq

/-- The kind of a flaw. -/
def kind : Flaw → Kind
  | tooFewSegments | headerDigits | headerText | headerKind | payloadNotDetached | payloadDigits
  | signatureDigits | detached | payloadText | payloadKind | notBeforeKind | expiryKind => .decoding
  | keyIdKind | criticalKind | criticalItemKind | criticalUnknown _ | criticalAbsent _
  | detachedNotCritical => .other
  | algorithmAbsent | algorithmNotAllowed | algorithmUnknown => .algorithm
  | signatureWrong => .signature
  | claimAbsent _ => .missingClaim
  | issuedAtKind => .issuedAt
  | issuedLater | notYetValid => .immature
  | expired => .expired
  | issuerKind | issuerWrong => .issuer
  | audienceUnexpected | audienceKind | audienceWrong => .audience
  | subjectKind => .subject
  | identifierKind => .identifier

/-- The name of a kind in reports. -/
def Kind.name : Kind → Text
  | decoding => "DecodeError"
  | other => "InvalidTokenError"
  | signature => "InvalidSignatureError"
  | algorithm => "InvalidAlgorithmError"
  | missingClaim => "MissingRequiredClaimError"
  | issuedAt => "InvalidIssuedAtError"
  | immature => "ImmatureSignatureError"
  | expired => "ExpiredSignatureError"
  | issuer => "InvalidIssuerError"
  | audience => "InvalidAudienceError"
  | subject => "InvalidSubjectError"
  | identifier => "InvalidJTIError"

/-! ## 3. Messages -/

/-- The message of a flaw. -/
def message : Flaw → Text
  | tooFewSegments => "Not enough segments"
  | headerDigits => "Invalid header padding"
  | headerText => "Invalid header string: "
  | headerKind => "Invalid header string: must be a json object"
  | payloadNotDetached => "Payload segment must be empty when 'b64' is false."
  | payloadDigits => "Invalid payload padding"
  | signatureDigits => "Invalid crypto padding"
  | keyIdKind => "Key ID header parameter must be a string"
  | criticalKind => "Invalid 'crit' header: must be a non-empty list"
  | criticalItemKind => "Invalid 'crit' header: values must be strings"
  | criticalUnknown name => ("Unsupported critical extension: " : Text) ++ name
  | criticalAbsent name =>
    ("Critical extension '" : Text) ++ name ++ "' is missing from headers"
  | detachedNotCritical => "The 'b64' header parameter requires 'b64' to be listed in 'crit'."
  | detached =>
    ("It is required that you pass in a value for the \"detached_payload\" argument to" : Text)
      ++ " decode a message having the b64 header set to false."
  | algorithmAbsent => "Algorithm not specified"
  | algorithmNotAllowed => "The specified alg value is not allowed"
  | algorithmUnknown => "Algorithm not supported"
  | signatureWrong => "Signature verification failed"
  | payloadText => "Invalid payload string: "
  | payloadKind => "Invalid payload string: must be a json object"
  | claimAbsent name => ("Token is missing the \"" : Text) ++ name ++ "\" claim"
  | issuedAtKind => "Issued At claim (iat) must be an integer."
  | issuedLater => "The token is not yet valid (iat)"
  | notBeforeKind => "Not Before claim (nbf) must be an integer."
  | notYetValid => "The token is not yet valid (nbf)"
  | expiryKind => "Expiration Time claim (exp) must be an integer."
  | expired => "Signature has expired"
  | issuerKind => "Payload Issuer (iss) must be a string"
  | issuerWrong => "Invalid issuer"
  | audienceUnexpected => "Invalid audience"
  | audienceKind => "Invalid claim format in token"
  | audienceWrong => "Audience doesn't match"
  | subjectKind => "Subject must be a string"
  | identifierKind => "JWT ID must be a string"

end Flaw

end Portcullis.Token
