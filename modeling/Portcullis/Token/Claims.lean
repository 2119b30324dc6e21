/-
# The claims of a token

A payload is an object of claims.  Some are registered: the times of issue, beginning and end, the
issuer, the audience, the subject and an identifier.  They are checked in that order, after the
required ones are found present.

A time is the integer part of a number, a boolean as zero or one, or a text that spells an integer.
The token lives from the second of issue on, or from its beginning, up to its end, which is
excluded.
-/
import Portcullis.Json.Basic
import Portcullis.Text.Digits
import Portcullis.Token.Flaw

namespace Portcullis.Token

/-! ## 1. Times -/

/-- The integer that a claim counts as. -/
def integerOf? : Json → Option Int
  | .int i => some i
  | .bool b => some (if b then 1 else 0)
  | .num x => x.truncate?
  | .text t => t.toInt?
  | _ => none

/-- Checks a time that may be absent: it is an integer, and not one that is refused. -/
def checkTime (name : Text) (kind refused : Flaw) (refuses : Int → Bool) (claims : Members) :
    Except Flaw Unit :=
  match claims.get? name with
  | none => .ok ()
  | some v => match integerOf? v with
    | none => .error kind
    | some i => if refuses i then .error refused else .ok ()

/-- Checks the time of issue. -/
def checkIssuedAt (now : Rat) : Members → Except Flaw Unit :=
  checkTime "iat" .issuedAtKind .issuedLater fun i => now < (i : Rat)

/-- Checks the beginning of the lifetime. -/
def checkNotBefore (now : Rat) : Members → Except Flaw Unit :=
  checkTime "nbf" .notBeforeKind .notYetValid fun i => now < (i : Rat)

/-- Checks the end of the lifetime. -/
def checkExpiry (now : Rat) : Members → Except Flaw Unit :=
  checkTime "exp" .expiryKind .expired fun i => (i : Rat) ≤ now

/-! ## 2. Parties -/

/-- Checks the issuer against the expected one, if one is expected. -/
def checkIssuer (expected : Option Text) (claims : Members) : Except Flaw Unit :=
  match expected with
  | none => .ok ()
  | some name => match claims.get? "iss" with
    | none => .error (.claimAbsent "iss")
    | some (.text t) => if t = name then .ok () else .error .issuerWrong
    | some _ => .error .issuerKind

/-- The texts in a list of texts. -/
def textItems? : List Json → Option (List Text)
  | [] => some []
  | .text t :: rest => (t :: ·) <$> textItems? rest
  | _ :: _ => none

/-- The audiences that a claim names: a text or a list of texts. -/
def audiencesOf? : Json → Option (List Text)
  | .text t => some [t]
  | .list items => textItems? items
  | _ => none

/-- Checks the audience: an expected one is to be named, and otherwise none is. -/
def checkAudience (expected : Option Text) (claims : Members) : Except Flaw Unit :=
  let claim := claims.getD "aud"
  match expected with
  | none => if claim.isTruthy then .error .audienceUnexpected else .ok ()
  | some name =>
    if claim.isTruthy then
      match audiencesOf? claim with
      | none => .error .audienceKind
      | some names => if names.contains name then .ok () else .error .audienceWrong
    else .error (.claimAbsent "aud")

/-- Checks that a claim is a text if it is there. -/
def checkText (name : Text) (flaw : Flaw) (claims : Members) : Except Flaw Unit :=
  match claims.get? name with
  | none | some (.text _) => .ok ()
  | some _ => .error flaw

/-! ## 3. All claims -/

/-- Checks that claims are present and not null. -/
def checkPresent (claims : Members) : List Text → Except Flaw Unit
  | [] => .ok ()
  | name :: rest =>
    if (claims.getD name).isNull then .error (.claimAbsent name) else checkPresent claims rest

/-- What a reader expects of the claims; `audience` is `none` when the claim is not looked at. -/
structure Expectations where
  required : List Text
  issuer : Option Text
  audience : Option (Option Text)

/-- Checks the claims at a time. -/
def checkClaims (expect : Expectations) (now : Rat) (claims : Members) : Except Flaw Unit := do
  checkPresent claims expect.required
  checkIssuedAt now claims
  checkNotBefore now claims
  checkExpiry now claims
  checkIssuer expect.issuer claims
  match expect.audience with
  | none => pure ()
  | some audience => checkAudience audience claims
  checkText "sub" .subjectKind claims
  checkText "jti" .identifierKind claims

end Portcullis.Token
