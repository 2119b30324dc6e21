/-
# Endpoints that require permissions

An endpoint that requires permissions serves a request only if the caller is permitted
(`Permitted`): the request brings an access token that is accepted for the issuer of the endpoint,
and the claims of that token grant each required permission.  No other strategy yields claims, and
neither does the identity that the request carried before, nor a caller who goes on as anonymous.

Everyone else is turned away (`TurnedAway`) before validation, by authentication or for want of a
permission.

**Main statement.**  `run_permitted_or_turnedAway`.
-/
import Portcullis.Endpoint
import Portcullis.Proofs.Access.Verify
import Portcullis.Proofs.Authentication.Outcome
import Portcullis.Proofs.Principal.Grants

namespace Portcullis

namespace Endpoint

open Authentication

/-! ## 1. Who is permitted -/

/-- The request brings an access token that is accepted for the issuer of the endpoint, and each
required permission is matched by one that its claims grant. -/
inductive Permitted (e : Endpoint) (trust : Trust) (r : Request) (now : Instant) : Prop
  | mk {issuer : Issuer} {token : Text} {claims : Members} (strategy : e.strategy = .jwt issuer)
      (bearer : r.bearerToken? = some token)
      (accepted : trust.tokens.verify token issuer now = .ok claims)
      (granted : ∀ required ∈ e.permissions, ∃ p, Principal.Grants claims p
        ∧ Permission.Matches p required)

/-- Requirements are met by the claims of a principal. -/
theorem coversAll_permissions_iff (p : Principal) (required : List Text) :
    Permission.coversAll p.permissions required = true
      ↔ ∀ r ∈ required, ∃ g, Principal.Grants p.claims g ∧ Permission.Matches g r := by
  simp only [Permission.coversAll_iff, Principal.mem_permissions_iff]

/-- A permitted caller is attached as a principal that has the permissions. -/
theorem Permitted.attached {e : Endpoint} {trust : Trust} {r : Request} {now : Instant}
    (h : Permitted e trust r now) :
    ∃ p, (attach trust e.strategy e.acceptInvalid r now).outcome = .ok p
      ∧ Permission.coversAll p.permissions e.permissions = true := by
  cases h with
  | @mk issuer token claims hstrategy hbearer haccepted hgranted =>
    refine ⟨principalOfClaims claims, outcome_attach_of_ok _ ?_, ?_⟩
    · rw [authenticate_ok_iff, hstrategy]
      exact outcome_jwt_iff.mpr ⟨claims, ⟨token, hbearer, haccepted⟩, rfl⟩
    · exact (coversAll_permissions_iff _ _).mpr hgranted

/-- **Only a permitted caller** is attached as a principal that has the permissions, if there are
any. -/
theorem permitted_of_attached {e : Endpoint} (hpermissions : e.permissions ≠ []) {trust : Trust}
    {r : Request} {now : Instant} {p : Principal}
    (hattached : (attach trust e.strategy e.acceptInvalid r now).outcome = .ok p)
    (hcovers : Permission.coversAll p.permissions e.permissions = true) :
    Permitted e trust r now := by
  have hclaims : p.claims ≠ [] := fun hnil =>
    Permission.ne_nil_of_coversAll hcovers hpermissions (Principal.permissions_of_claims_nil hnil)
  rcases attach_ok hattached with hauthenticated | rfl
  · have hcheck := check_ok (authenticate_ok_iff.mp hauthenticated)
    rcases hcheck with hnil | ⟨issuer, claims, hstrategy, hbrings, rfl⟩
    · exact absurd hnil hclaims
    · obtain ⟨token, hbearer, haccepted⟩ := hbrings
      exact .mk hstrategy hbearer haccepted ((coversAll_permissions_iff _ _).mp hcovers)
  · exact absurd rfl hclaims

/-! ## 2. What is entered -/

/-- Serving begins with validation. -/
theorem stages_serve (e : Endpoint) (r : Request) (p : Principal) :
    ∃ rest, (e.serve r p).stages = .validation :: rest := by
  rw [serve]
  split
  · exact ⟨_, rfl⟩
  · simp only
    split
    · exact ⟨_, rfl⟩
    · split
      · exact ⟨_, rfl⟩
      · exact ⟨_, rfl⟩

/-- How a caller is turned away: authentication fails and nothing else is entered, or a permission
is missing and nothing behind the check of permissions is entered. -/
inductive TurnedAway (e : Endpoint) (trust : Trust) (r : Request) (now : Instant) : Prop
  | byAuthentication {fault : Fault}
      (raised : (attach trust e.strategy e.acceptInvalid r now).outcome = .error fault)
      (stages : (e.run trust r now).stages = [.authentication])
      (outcome : (e.run trust r now).outcome = .error fault)
  | byPermissions {message : Text} {data : Json}
      (stages : (e.run trust r now).stages = [.authentication, .permissions])
      (outcome : (e.run trust r now).outcome
        = .error (.web message "forbidden" 403 (.ok data) .null none))

/-- **An endpoint that requires permissions** goes on to validation exactly for those who are
permitted, and turns everyone else away. -/
theorem run_permitted_or_turnedAway {e : Endpoint} (hpermissions : e.permissions ≠ [])
    (trust : Trust) (r : Request) (now : Instant) :
    (Permitted e trust r now ∧ ∃ rest, (e.run trust r now).stages
        = .authentication :: .permissions :: .validation :: rest)
      ∨ (¬ Permitted e trust r now ∧ TurnedAway e trust r now) := by
  have hentry : e.entry = [.authentication, .permissions] :=
    if_neg (mt List.isEmpty_iff.mp hpermissions)
  cases hattached : (attach trust e.strategy e.acceptInvalid r now).outcome with
  | error fault =>
    have hrun : e.run trust r now = ⟨(attach trust e.strategy e.acceptInvalid r now).events,
        [.authentication], r.identity, .error fault⟩ := by
      simp only [run, hattached]
    refine Or.inr ⟨?_, .byAuthentication hattached (by rw [hrun]) (by rw [hrun])⟩
    intro hpermitted
    obtain ⟨p, hok, -⟩ := hpermitted.attached
    cases hattached.symm.trans hok
  | ok p =>
    cases hcovers : Permission.coversAll p.permissions e.permissions with
    | true =>
      refine Or.inl ⟨permitted_of_attached hpermissions hattached hcovers, ?_⟩
      obtain ⟨rest, hserve⟩ := stages_serve e { r with identity := .principal p } p
      refine ⟨rest, ?_⟩
      simp only [run, hattached, requirePermissions, hcovers, if_true, hentry, hserve]
      rfl
    | false =>
      have hrefused : requirePermissions e.permissions p = .error (.refusal
          "Principal lacks a required permission" "forbidden" 403
          [("required", .texts e.permissions), ("granted", .texts p.permissions)]) :=
        if_neg (ne_true_of_eq_false hcovers)
      have hrun : e.run trust r now = ⟨(attach trust e.strategy e.acceptInvalid r now).events,
          [.authentication, .permissions], .principal p, .error (.refusal
            "Principal lacks a required permission" "forbidden" 403
            [("required", .texts e.permissions), ("granted", .texts p.permissions)])⟩ := by
        simp only [run, hattached, hrefused, hentry]
      refine Or.inr ⟨?_, .byPermissions (by rw [hrun]) (by rw [hrun]; rfl)⟩
      intro hpermitted
      obtain ⟨q, hok, hq⟩ := hpermitted.attached
      obtain rfl := Except.ok.inj (hattached.symm.trans hok)
      exact absurd (hcovers.symm.trans hq) Bool.false_ne_true

/-- An endpoint for readers of orders that lets refused callers go on as anonymous. -/
def readersOnly : Endpoint where
  path := "/orders"
  method := .get
  handler := fun _ notes => (.ok (.bool true), notes)
  strategy := .jwt .authService
  permissions := ["orders:read", "orders:read"]
  acceptInvalid := true

/-- A trust in one issuer with a shared secret, and in nothing else. -/
def issuerTrust : Trust where
  tokens := TokenTrust.sharedKeyTrust
  signatureSecret := none
  static := none
  verification := none
  transport := ⟨none, none, none, [], false⟩

/-- A token of that issuer whose claim of permissions is a list of a text and a number. -/
def readerToken : Text :=
  ("eyJhbGciOiJIUzI1NiJ9" : Text)
    ++ ".eyJpc3MiOiJhdXRoLXNlcnZpY2UiLCJhdWQiOiJBIiwiaWF0IjowLCJleHAiOjEwMCwicGVyIjpbIio6cmVhZCIs"
    ++ "N119"
    ++ ".uxLtkUs1V6gRUnu3tTi67yAjdUGSag_2Q8X7XueoPic"

/-- The claims in it. -/
def readerClaims : Members :=
  [("iss", .text "auth-service"), ("aud", .text "A"), ("iat", .int 0), ("exp", .int 100),
    ("per", .list [.text "*:read", .int 7])]

/-- A request that brings it, with a foreign identity. -/
def readerRequest : Request where
  method := "GET"
  path := "/orders"
  query := []
  headers := [("authorization", ("BEARER " : Text) ++ readerToken)]
  body := []
  tls := .null
  client := none
  identity := .foreign none

theorem run_readerRequest :
    readersOnly.permissions ≠ [] ∧ ∃ rest, (readersOnly.run issuerTrust readerRequest 50).stages
      = .authentication :: .permissions :: .validation :: rest := by
  have hpermissions : readersOnly.permissions ≠ [] := List.cons_ne_nil _ _
  have haccepted : issuerTrust.tokens.verify readerToken .authService 50 = .ok readerClaims :=
    ok_of_toOption (by decide +kernel)
  have hbearer : readerRequest.bearerToken? = some readerToken := by decide +kernel
  have hgrants : Principal.Grants readerClaims "*:read" :=
    Or.inr ⟨[.text "*:read", .int 7], by decide, List.mem_cons_self⟩
  have hmatches : Permission.Matches "*:read" "orders:read" :=
    (Permission.isMatch_iff _ _).mp (by decide)
  have hpermitted : Permitted readersOnly issuerTrust readerRequest 50 := by
    refine .mk rfl hbearer haccepted fun required hrequired => ⟨"*:read", hgrants, ?_⟩
    have hread : required = "orders:read" := by simpa [readersOnly] using hrequired
    rw [hread]
    exact hmatches
  rcases run_permitted_or_turnedAway hpermissions issuerTrust readerRequest 50 with
    ⟨-, hentered⟩ | ⟨hno, -⟩
  · exact ⟨hpermissions, hentered⟩
  · exact absurd hpermitted hno

end Endpoint

end Portcullis
