/-
# Compact tokens

Minting writes a header and the claims and signs both.  Reading checks, in this order: the segments,
the algorithm, the signature, the payload, and the claims; the first that fails is the flaw.
-/
import Portcullis.Token.Algorithm
import Portcullis.Token.Claims
import Portcullis.Token.Segments

namespace Portcullis.Token

/-! ## 1. Minting -/

/-- A JSON object as a segment. -/
def segment (ms : Members) : Text :=
  Base64.encode Base64.urlSafe (Bytes.ofAscii (Json.ascii (.object ms)))

/-- The header that names an algorithm. -/
def headerOf (algorithm : Text) : Members := [("alg", .text algorithm), ("typ", .text "JWT")]

/-- The token of claims under a key. -/
def mint (algorithm key : Text) (claims : Members) : Except Fault Text :=
  if !Json.nestsWithin Json.maxDepth (.object claims) then .error (.ofKind .recursion)
  else if !Json.integersFit (.object claims) then .error (.ofKind .value)
  else match Algorithm.ofName? algorithm with
    | none => .error (.ofKind .unsupported)
    | some a => do
      let signed := segment (headerOf algorithm) ++ dot :: segment claims
      let signature ← a.sign key (Bytes.ofAscii signed)
      return signed ++ dot :: Base64.encode Base64.urlSafe signature

/-! ## 2. Reading -/

/-- The algorithm that a header names, if it is the key's. -/
def chooseAlgorithm (allowed : Text) (header : Members) : Except Flaw Algorithm :=
  match header.get? "alg" with
  | none => .error .algorithmAbsent
  | some (.text name) =>
    if name.isEmpty ∨ name ≠ allowed then .error .algorithmNotAllowed
    else match Algorithm.ofName? name with
      | none => .error .algorithmUnknown
      | some a => .ok a
  | some _ => .error .algorithmNotAllowed

/-- The claims in a payload. -/
def readClaims (payload : Bytes) : Except Flaw Members :=
  match Json.readBytes payload with
  | .error _ => .error .payloadText
  | .ok (.object claims) => .ok claims
  | .ok _ => .error .payloadKind

/-- A flaw as a fault. -/
def liftFlaw {α : Type} : Except Flaw α → Except Fault α
  | .ok a => .ok a
  | .error flaw => .error (.token flaw)

/-- The segments of a token whose signature is the key's. -/
def authenticate (algorithm key token : Text) : Except Fault Segments :=
  if token.any CodePoint.isSurrogate then .error (.ofKind .encoding)
  else do
    let segments ← liftFlaw (Segments.read token)
    let a ← liftFlaw (chooseAlgorithm algorithm segments.header)
    if ← a.verify key segments.signed segments.signature then return segments
    else .error (.token .signatureWrong)

/-- The claims of a token that is a key's and holds at a time. -/
def read (algorithm key : Text) (expect : Expectations) (now : Rat) (token : Text) :
    Except Fault Members := do
  let segments ← authenticate algorithm key token
  let claims ← liftFlaw (readClaims segments.payload)
  liftFlaw (checkClaims expect now claims)
  return claims

end Portcullis.Token
