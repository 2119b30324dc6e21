/-
# What the report of readiness is worth

A service reports of each strategy whether its material is there, and the startup check refuses a
strategy whose material is missing.  The two judge the same trust, but not in the same way: the
report asks whether something is there, the check whether it is of use.  They agree on static
tokens, on transport and on verification tokens, whose material is not kept unless it is of use.
They disagree in two cases (`Overstated`): on a secret for signatures that is set to nothing, and on
a key for access tokens that no audience goes with.

**Main statement.**  `respond_readiness`.
-/
import Portcullis.Proofs.Service.Boundary

namespace Portcullis

/-! ## 1. The trust that settings describe -/

/-- Settings that are read are those of the environment. -/
theorem Settings.ofEnvironment_ok {env : Environment} {s : Settings}
    (h : ofEnvironment env = .ok s) :
    ∃ stage port trustProxy, s = .build env stage port trustProxy := by
  rw [ofEnvironment] at h
  split at h
  · next stage port trustProxy _ _ _ => exact ⟨stage, port, trustProxy, (Except.ok.inj h).symm⟩
  · cases h

namespace Trust

variable {files : Files} {s : Settings} {trust : Trust}

/-- A key keeps the audience that it is made with. -/
theorem audience_of_issuerKey {settings : IssuerSettings} {audience : Option Text} {key : IssuerKey}
    (h : issuerKey files settings audience = .ok (some key)) : key.audience = audience := by
  rw [issuerKey] at h
  split at h
  · obtain ⟨secret, -, rfl⟩ := Option.map_eq_some_iff.mp (Except.ok.inj h)
    rfl
  split at h
  · cases h
  · obtain ⟨verifyKey, -, h⟩ := bind_eq_ok h
    split at h
    · obtain ⟨signingKey, -, h⟩ := bind_eq_ok h
      obtain rfl := Option.some.inj (Except.ok.inj h)
      rfl
    · obtain rfl := Option.some.inj (Except.ok.inj h)
      rfl

/-- The secret for signatures is the one that is set, and the tokens of the service's own issuer are
for the audience that is set. -/
theorem set_of_ofSettings (h : ofSettings files s = .ok trust) :
    trust.signatureSecret = s.signatureSecret
      ∧ trust.tokens.audienceFor .authService = s.authService.audience := by
  obtain ⟨authKey, hauth, h⟩ := bind_eq_ok h
  obtain ⟨adminKey, -, h⟩ := bind_eq_ok h
  obtain ⟨trusted, -, h⟩ := bind_eq_ok h
  have hown : authKey.bind IssuerKey.audience = none := by
    cases authKey with
    | none => rfl
    | some key => exact audience_of_issuerKey hauth
  have hfor : ∀ tokens : TokenTrust, tokens.keys .authService = authKey →
      tokens.audienceFor .authService = tokens.audience := by
    intro tokens hkey
    rw [TokenTrust.audienceFor, hkey, hown]
  split at h
  · obtain ⟨static, -, h⟩ := bind_eq_ok h
    obtain rfl := Except.ok.inj h
    exact ⟨rfl, hfor _ rfl⟩
  · obtain rfl := Except.ok.inj h
    exact ⟨rfl, hfor _ rfl⟩

/-! ## 2. The startup check -/

theorem require_jwt_ok_iff {issuer : Issuer} : trust.require (.jwt issuer) = .ok ()
    ↔ (trust.tokens.keys issuer).isSome = true
      ∧ (filled? (trust.tokens.audienceFor issuer)).isSome = true := by
  rw [require]
  cases trust.tokens.keys issuer <;> cases filled? (trust.tokens.audienceFor issuer) <;> simp

theorem require_hmac_ok_iff {webhook : Bool} : trust.require (.hmac none webhook) = .ok ()
    ↔ (filled? trust.signatureSecret).isSome = true := by
  have hown : trust.effectiveSecret none = filled? trust.signatureSecret := by
    simp [effectiveSecret, filled?]
  rw [require, hown]
  cases filled? trust.signatureSecret <;> simp

theorem require_static_ok_iff : trust.require .static = .ok () ↔ trust.static.isSome = true := by
  rw [require]
  cases trust.static <;> simp

theorem require_tls_ok_iff {whitelist : Option (List Text)} :
    trust.require (.tls whitelist) = .ok () ↔ trust.transport.isEnabled = true := by
  rw [require]
  cases trust.transport.isEnabled <;> simp

theorem require_verification_ok_iff {rule : VerificationRule} :
    trust.require (.verification rule) = .ok () ↔ trust.verification.isSome = true := by
  rw [require]
  cases trust.verification <;> simp

end Trust

namespace Service

/-! ## 3. The report -/

/-- The strategies that are reported of, each without options of its own but for the rule of
verification tokens. -/
def reportedStrategies (rule : VerificationRule) : List (Text × Strategy) := [
  ("jwt", .jwt .authService), ("hmac", .hmac none false), ("static", .static), ("tls", .tls none),
  ("verification", .verification rule)]

/-- A response reports of a strategy whether its material is there. -/
def Reports (response : Response) (name : Text) (there : Bool) : Prop :=
  response.status = 200 ∧ ∃ strategies : Members,
    response.body = some (.object [("status", .text "ready"), ("strategies", .object strategies)])
      ∧ strategies.get? name = some (.bool there)

/-- A strategy whose material is reported to be there though it is of no use. -/
inductive Overstated (env : Environment) (trust : Trust) : Strategy → Prop
  /-- The secret for signatures is set to nothing. -/
  | signatures (empty : env.field? "payload_signature_secret" = some []) :
      Overstated env trust (.hmac none false)
  /-- There is a key for access tokens, and no audience for them or an empty one. -/
  | tokens (keyed : (trust.tokens.keys .authService).isSome = true)
      (unset : Trust.filled? (env.field? "access_token_audience") = none) :
      Overstated env trust (.jwt .authService)

/-- What is there is what the startup check lets through, and what is overstated besides. -/
structure Judged (env : Environment) (trust : Trust) (strategy : Strategy) (there : Bool) :
    Prop where
  there_iff : there = true ↔ trust.require strategy = .ok () ∨ Overstated env trust strategy
  refused : Overstated env trust strategy → trust.require strategy ≠ .ok ()

/-- Where nothing can be overstated, what is there is what is let through. -/
theorem judged_of_iff {env : Environment} {trust : Trust} {strategy : Strategy} {there : Bool}
    (h : trust.require strategy = .ok () ↔ there = true)
    (hplain : ¬ Overstated env trust strategy) : Judged env trust strategy there where
  there_iff := by rw [or_iff_left hplain, h]
  refused hover := absurd hover hplain

/-- A secret that is there is of use unless it is empty. -/
theorem judged_hmac {env : Environment} {trust : Trust}
    (hsecret : trust.signatureSecret = env.field? "payload_signature_secret") :
    Judged env trust (.hmac none false) trust.signatureSecret.isSome := by
  have hover : Overstated env trust (.hmac none false) ↔ trust.signatureSecret = some [] := by
    rw [hsecret]
    exact ⟨fun h => by cases h with | signatures empty => exact empty, .signatures⟩
  constructor
  · rw [Trust.require_hmac_ok_iff, hover]
    rcases trust.signatureSecret with _ | _ | ⟨c, secret⟩ <;> simp [Trust.filled?]
  · rw [ne_eq, Trust.require_hmac_ok_iff, hover]
    intro hempty
    simp [hempty, Trust.filled?]

/-- A key that is there is of use if there is an audience. -/
theorem judged_jwt {env : Environment} {trust : Trust}
    (haudience : trust.tokens.audienceFor .authService = env.field? "access_token_audience") :
    Judged env trust (.jwt .authService) (trust.tokens.keys .authService).isSome := by
  have hover : Overstated env trust (.jwt .authService)
      ↔ (trust.tokens.keys .authService).isSome = true
        ∧ Trust.filled? (trust.tokens.audienceFor .authService) = none := by
    rw [haudience]
    refine ⟨fun h => ?_, fun h => .tokens h.1 h.2⟩
    cases h with
    | tokens keyed unset => exact ⟨keyed, unset⟩
  constructor
  · rw [Trust.require_jwt_ok_iff, hover, ← and_or_left, iff_self_and]
    intro _
    cases Trust.filled? (trust.tokens.audienceFor .authService) <;> simp
  · rw [ne_eq, Trust.require_jwt_ok_iff, hover]
    rintro ⟨-, hunset⟩ ⟨-, hset⟩
    rw [hunset] at hset
    cases hset

/-- The report is what a request for it is answered with. -/
theorem dispatch_readiness {service : Service} {stage : Stage} {routes : List Route}
    (hroutes : service.routes = ownRoutes stage ++ routes) {r : Request}
    (hpath : r.path = "/readyz") (hmethod : r.method = "GET") (m : Moment) :
    (service.dispatch r m).outcome = .ok ⟨200, Response.jsonHeaders, some (.object [
      ("status", .text "ready"), ("strategies", readiness service.trust)])⟩ := by
  have hsearch : Route.search r.path r.method service.routes
      = .ok (some (.ofLiteral "/readyz" .get .readiness),
        some (.ofLiteral "/readyz" .get .readiness)) := by
    rw [hpath, hmethod, hroutes]
    cases stage <;> rfl
  rw [dispatch, hsearch]
  rfl

/-- **The report of readiness** says of each strategy that its material is there exactly if the
startup check lets the strategy through or its material is overstated, and then it does not. -/
theorem respond_readiness {env : Environment} {files : Trust.Files} {settings : Settings}
    {endpoints : List Endpoint} {service : Service}
    (hsettings : Settings.ofEnvironment env = .ok settings)
    (hbuilt : (build files settings none endpoints).outcome = .ok service) {r : Request}
    (hpath : r.path = "/readyz") (hmethod : r.method = "GET")
    (hread : ∃ shown, Report.requestFields r = .ok shown) (m : Moment) (rule : VerificationRule) :
    ∃ response, (service.respond r m).response = some response
      ∧ ∀ name strategy, (name, strategy) ∈ reportedStrategies rule →
        ∃ there, Reports response name there ∧ Judged env service.trust strategy there := by
  obtain ⟨routes, hroutes⟩ := routes_of_build hbuilt
  obtain ⟨stage, port, trustProxy, rfl⟩ := Settings.ofEnvironment_ok hsettings
  have htrust : Trust.ofSettings files (.build env stage port trustProxy) = .ok service.trust :=
    trustFor_of_build hbuilt
  obtain ⟨hsecret, haudience⟩ := Trust.set_of_ofSettings htrust
  have hanswered := dispatch_readiness hroutes hpath hmethod m
  refine ⟨_, response_of_answer hread hanswered, ?_⟩
  intro name strategy hmem
  simp only [reportedStrategies, List.mem_cons, Prod.mk.injEq, List.not_mem_nil, or_false] at hmem
  rcases hmem with ⟨rfl, rfl⟩ | ⟨rfl, rfl⟩ | ⟨rfl, rfl⟩ | ⟨rfl, rfl⟩ | ⟨rfl, rfl⟩
  · exact ⟨_, ⟨rfl, _, rfl, rfl⟩, judged_jwt haudience⟩
  · exact ⟨_, ⟨rfl, _, rfl, rfl⟩, judged_hmac hsecret⟩
  · exact ⟨_, ⟨rfl, _, rfl, rfl⟩, judged_of_iff Trust.require_static_ok_iff nofun⟩
  · exact ⟨_, ⟨rfl, _, rfl, rfl⟩, judged_of_iff Trust.require_tls_ok_iff nofun⟩
  · exact ⟨_, ⟨rfl, _, rfl, rfl⟩, judged_of_iff Trust.require_verification_ok_iff nofun⟩

/-- A request for the report. -/
def readinessRequest : Request where
  method := "GET"
  path := "/readyz"
  query := []
  headers := []
  body := []
  tls := .null
  client := none
  identity := .absent

/-- With a static token and nothing else, static tokens are reported to be there and signatures are
not. -/
theorem respond_readiness_static :
    ∃ settings service response,
      Settings.ofEnvironment [("ENGINE_STATIC_TOKEN", "let me in")] = .ok settings
        ∧ (build noFiles settings none []).outcome = .ok service
        ∧ (service.respond readinessRequest firstMoment).response = some response
        ∧ Reports response "static" true ∧ Reports response "hmac" false := by
  obtain ⟨settings, hsettings, hseen⟩ := ok_of_map_toOption
    (x := Settings.ofEnvironment [("ENGINE_STATIC_TOKEN", "let me in")])
    (f := fun settings => (build noFiles settings none []).outcome.toOption.map fun service =>
      ((service.trust.require .static).toOption,
        (service.trust.require (.hmac none false)).toOption))
    (b := some (some (), none)) (by decide +kernel)
  obtain ⟨service, hbuilt, hrequire⟩ := ok_of_map_toOption hseen
  obtain ⟨hstatic, hmissing⟩ := Prod.mk.inj hrequire
  obtain ⟨response, hresponse, hreports⟩ := respond_readiness hsettings hbuilt
    (r := readinessRequest) rfl rfl ⟨_, rfl⟩ firstMoment { action := "reset" }
  obtain ⟨there, hthere, hjudged⟩ := hreports "static" .static (by simp [reportedStrategies])
  obtain rfl : there = true := hjudged.there_iff.mpr (Or.inl (ok_of_toOption hstatic))
  obtain ⟨there, hother, hjudged⟩ :=
    hreports "hmac" (.hmac none false) (by simp [reportedStrategies])
  obtain rfl : there = false := by
    rw [← Bool.not_eq_true, hjudged.there_iff]
    rintro (hok | hover)
    · rw [hok] at hmissing
      cases hmissing
    · cases hover with
      | signatures hempty => exact absurd hempty (by decide +kernel)
  exact ⟨settings, service, response, hsettings, hbuilt, hresponse, hthere, hother⟩

/-- With a secret that is set to nothing, signatures are reported to be there, and the startup check
refuses them. -/
theorem respond_emptySecret :
    ∃ settings service response,
      Settings.ofEnvironment [("ENGINE_PAYLOAD_SIGNATURE_SECRET", "")] = .ok settings
        ∧ (build noFiles settings none []).outcome = .ok service
        ∧ (service.respond readinessRequest firstMoment).response = some response
        ∧ Reports response "hmac" true
        ∧ ∃ fault, service.trust.require (.hmac none false) = .error fault := by
  obtain ⟨settings, hsettings, hseen⟩ := ok_of_map_toOption
    (x := Settings.ofEnvironment [("ENGINE_PAYLOAD_SIGNATURE_SECRET", "")])
    (f := fun settings => (build noFiles settings none []).outcome.toOption.map fun service =>
      ((service.respond readinessRequest firstMoment).response.map fun x => (x.status, x.body),
        (service.trust.require (.hmac none false)).toOption))
    (b := some (some (200, some (.object [("status", .text "ready"), ("strategies", .object [
        ("jwt", .bool false), ("hmac", .bool true), ("static", .bool false), ("tls", .bool false),
        ("verification", .bool false)])])), none)) (by decide +kernel)
  obtain ⟨service, hbuilt, hreply⟩ := ok_of_map_toOption hseen
  obtain ⟨hanswer, hmissing⟩ := Prod.mk.inj hreply
  obtain ⟨response, hresponse, hshown⟩ := Option.map_eq_some_iff.mp hanswer
  obtain ⟨hstatus, hbody⟩ := Prod.mk.inj hshown
  refine ⟨settings, service, response, hsettings, hbuilt, hresponse,
    ⟨hstatus, _, hbody, rfl⟩, ?_⟩
  cases hrequire : service.trust.require (.hmac none false) with
  | error fault => exact ⟨fault, rfl⟩
  | ok _ =>
    rw [hrequire] at hmissing
    cases hmissing

end Service

end Portcullis
