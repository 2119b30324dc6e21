/-
# Principals and permissions

A principal is what a successful authentication yields: how it was established, and the fields that
this way provides.  Its permissions are the texts of one claim.

A permission is a text of segments between colons.  A granted one matches a required one of as many
segments if each of its segments is equal to the other's or is a star.

**Main statements.**  Matching is reflexive (`Permission.isMatch_self`), and requirements are judged
one by one (`Permission.coversAll_append`).
-/
import Portcullis.Json.Basic

namespace Portcullis

/-! ## 1. Kinds of authentication -/

/-- The ways to authenticate. -/
inductive AuthKind where
  | none
  | jwt
  | hmac
  | static
  | tls
  | verification
deriving DecidableEq

/-- The name of a way to authenticate. -/
def AuthKind.name : AuthKind → Text
  | none => "none"
  | jwt => "jwt"
  | hmac => "hmac"
  | static => "static"
  | tls => "tls"
  | verification => "verification"

/-- The way to authenticate of a name. -/
def AuthKind.ofName? (name : Text) : Option AuthKind :=
  [none, jwt, hmac, static, tls, verification].find? fun k => k.name == name

/-! ## 2. Principals -/

/-- An identity, for the time of one request. -/
structure Principal where
  kind : AuthKind
  subject : Option Text := Option.none
  issuer : Option Text := Option.none
  claims : Members := []
  user : Option Members := Option.none
  hosts : List Text := []
  action : Option Text := Option.none
  codeVerified : Bool := false

namespace Principal

/-- The identity of a caller who is not authenticated. -/
def anonymous : Principal := ⟨.none, none, none, [], none, [], none, false⟩

/-- Whether the identity was established in some way. -/
def isAuthenticated (p : Principal) : Bool := p.kind != .none

/-- The permissions that a claim grants: itself if it is a text, the texts in it if it is a list. -/
def permissionsOf : Json → List Text
  | .text t => [t]
  | .list items => items.filterMap Json.text?
  | _ => []

/-- The permissions of an identity. -/
def permissions (p : Principal) : List Text := permissionsOf (Members.getD p.claims "per")

end Principal

/-- What a request carries as its identity before it is authenticated: nothing, a principal, or a
value of another kind, which counts as nothing.  Such a value may have a subject to ask for. -/
inductive Identity where
  | absent
  | principal (p : Principal)
  | foreign (subject : Option Json)

/-- The principal of a request; one without is anonymous. -/
def Identity.principalOrAnonymous : Identity → Principal
  | .principal p => p
  | _ => .anonymous

/-! ## 3. Permissions -/

namespace Permission

/-- The colon between segments. -/
def colon : CodePoint := CodePoint.ofNat 0x3A

/-- The segment that matches every segment. -/
def star : Text := "*"

/-- Whether granted segments match required ones, each to each. -/
def segmentsMatch : List Text → List Text → Bool
  | [], [] => true
  | g :: gs, r :: rs => (g == star || g == r) && segmentsMatch gs rs
  | _, _ => false

/-- Whether a granted permission matches a required one. -/
def isMatch (granted required : Text) : Bool :=
  segmentsMatch (Text.splitOn colon granted) (Text.splitOn colon required)

/-- Whether each required permission is matched by some granted one. -/
def coversAll (granted required : List Text) : Bool :=
  required.all fun r => granted.any fun g => isMatch g r

theorem segmentsMatch_self (segments : List Text) : segmentsMatch segments segments = true := by
  induction segments with
  | nil => rfl
  | cons s segments ih => simp [segmentsMatch, ih]

theorem isMatch_self (p : Text) : isMatch p p = true := segmentsMatch_self _

theorem coversAll_append (granted r₁ r₂ : List Text) :
    coversAll granted (r₁ ++ r₂) = (coversAll granted r₁ && coversAll granted r₂) := by
  simp [coversAll]

end Permission

end Portcullis
