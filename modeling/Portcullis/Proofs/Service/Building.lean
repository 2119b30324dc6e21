/-
# What a service that is built can rely on

Endpoints are registered one after the other, and each requires the material of its strategy first
(`Registrable`).  So a service is built exactly if its settings are in order and every endpoint can
be registered, wherever it stands in the list; one that cannot ends the building.

A service keeps the trust it was built under.  What was required of the trust then holds of every
request later, so that a request to an endpoint ends in a configuration that cannot work only if the
one says so whom the endpoint asks for the expected subject.

**Main statements.**  `build_ok_iff` and `build_requires`.
-/
import Portcullis.Proofs.Authentication.Discreet
import Portcullis.Service

namespace Portcullis.Service

/-! ## 1. Registration -/

/-- An endpoint has its material, its path is a pattern, and its status allows what it answers
with. -/
structure Registrable (trust : Trust) (e : Endpoint) : Prop where
  material : trust.require e.strategy = .ok ()
  pattern : ∃ pattern, patternOf e.path = .ok pattern
  body : allowsBody e.status = true

/-- What is reported of an endpoint changes nothing. -/
theorem outcome_register (trust : Trust) (e : Endpoint) : (register trust e).outcome = (do
    trust.require e.strategy
    let pattern ← patternOf e.path
    if allowsBody e.status then return ⟨e.path, pattern, [e.method], .endpoint e⟩
    else .error (bodyForbidden e.status)) := by
  rw [register, Attempt.outcome_bind]
  refine congrArg _ (funext fun _ => ?_)
  by_cases hkind : e.strategy.kind = .none
  · rw [if_pos hkind]
    cases patternOf e.path <;> cases allowsBody e.status <;> rfl
  · rw [if_neg hkind]
    cases patternOf e.path <;> cases allowsBody e.status <;> rfl

theorem register_ok_iff (trust : Trust) (e : Endpoint) :
    (∃ route, (register trust e).outcome = .ok route) ↔ Registrable trust e := by
  rw [outcome_register]
  constructor
  · rintro ⟨route, h⟩
    obtain ⟨⟨⟩, hmaterial, h⟩ := bind_eq_ok h
    obtain ⟨pattern, hpattern, h⟩ := bind_eq_ok h
    split at h
    · next hbody => exact ⟨hmaterial, ⟨pattern, hpattern⟩, hbody⟩
    · cases h
  · rintro ⟨hmaterial, ⟨pattern, hpattern⟩, hbody⟩
    rw [hmaterial, ok_bind, hpattern, ok_bind, if_pos hbody]
    exact ⟨_, rfl⟩

/-- **All endpoints are registered** exactly if each of them can be. -/
theorem registerAll_ok_iff (trust : Trust) (endpoints : List Endpoint) :
    (∃ routes, (registerAll trust endpoints).outcome = .ok routes)
      ↔ ∀ e ∈ endpoints, Registrable trust e := by
  induction endpoints with
  | nil => exact iff_of_true ⟨[], rfl⟩ (List.forall_mem_nil _)
  | cons e rest ih =>
    rw [List.forall_mem_cons, ← ih, ← register_ok_iff]
    constructor
    · rintro ⟨routes, h⟩
      obtain ⟨route, hroute, h⟩ := Attempt.outcome_bind_ok h
      obtain ⟨others, hothers, -⟩ := Attempt.outcome_bind_ok h
      exact ⟨⟨route, hroute⟩, others, hothers⟩
    · rintro ⟨⟨route, hroute⟩, others, hothers⟩
      refine ⟨route :: others, ?_⟩
      rw [registerAll, Attempt.outcome_bind, hroute, ok_bind, Attempt.outcome_bind, hothers]
      rfl

/-! ## 2. Building -/

/-- A service that is created keeps its trust. -/
theorem trust_of_create {settings : Settings} {trust : Trust} {endpoints : List Endpoint}
    {service : Service} (h : (create settings trust endpoints).outcome = .ok service) :
    service.trust = trust := by
  rw [create] at h
  split at h
  · cases h
  obtain ⟨routes, -, h⟩ := Attempt.outcome_bind_ok h
  obtain ⟨_, -, h⟩ := Attempt.outcome_bind_ok h
  obtain rfl := Except.ok.inj h
  rfl

/-- Its own routes come before those of its endpoints. -/
theorem routes_of_create {settings : Settings} {trust : Trust} {endpoints : List Endpoint}
    {service : Service} (h : (create settings trust endpoints).outcome = .ok service) :
    ∃ routes, service.routes = ownRoutes settings.stage ++ routes := by
  rw [create] at h
  split at h
  · cases h
  obtain ⟨routes, -, h⟩ := Attempt.outcome_bind_ok h
  obtain ⟨_, -, h⟩ := Attempt.outcome_bind_ok h
  obtain rfl := Except.ok.inj h
  exact ⟨routes, rfl⟩

theorem create_ok_iff (settings : Settings) (trust : Trust) (endpoints : List Endpoint) :
    (∃ service, (create settings trust endpoints).outcome = .ok service)
      ↔ settings.serviceName ≠ [] ∧ ∀ e ∈ endpoints, Registrable trust e := by
  rw [create, ← registerAll_ok_iff]
  by_cases hname : settings.serviceName.isEmpty = true
  · rw [if_pos hname]
    refine iff_of_false ?_ fun h => h.1 (List.isEmpty_iff.mp hname)
    rintro ⟨service, h⟩
    cases h
  · rw [if_neg hname, and_iff_right (mt List.isEmpty_iff.mpr hname)]
    constructor
    · rintro ⟨service, h⟩
      obtain ⟨routes, hroutes, -⟩ := Attempt.outcome_bind_ok h
      exact ⟨routes, hroutes⟩
    · rintro ⟨routes, hroutes⟩
      rw [Attempt.outcome_bind, hroutes]
      exact ⟨_, rfl⟩

section Build

variable {files : Trust.Files} {settings : Settings} {given : Option Trust}
  {endpoints : List Endpoint}

/-- The trust of a service that is built is the one that is given or described. -/
theorem trustFor_of_build {service : Service}
    (h : (build files settings given endpoints).outcome = .ok service) :
    trustFor files settings given = .ok service.trust := by
  obtain ⟨_, -, h⟩ := Attempt.outcome_bind_ok h
  obtain ⟨trust, htrust, h⟩ := Attempt.outcome_bind_ok h
  rw [trust_of_create h]
  exact htrust

theorem routes_of_build {service : Service}
    (h : (build files settings given endpoints).outcome = .ok service) :
    ∃ routes, service.routes = ownRoutes settings.stage ++ routes := by
  obtain ⟨_, -, h⟩ := Attempt.outcome_bind_ok h
  obtain ⟨_, -, h⟩ := Attempt.outcome_bind_ok h
  exact routes_of_create h

/-- **A service is built** exactly if the level of its log is not refused, it has a name, its trust
can be had, and all its endpoints can be registered under that. -/
theorem build_ok_iff :
    (∃ service, (build files settings given endpoints).outcome = .ok service)
      ↔ Level.require settings.logLevel = .ok () ∧ settings.serviceName ≠ []
        ∧ ∃ trust, trustFor files settings given = .ok trust
          ∧ ∀ e ∈ endpoints, Registrable trust e := by
  constructor
  · rintro ⟨service, h⟩
    obtain ⟨⟨⟩, hlevel, h⟩ := Attempt.outcome_bind_ok h
    obtain ⟨trust, htrust, h⟩ := Attempt.outcome_bind_ok h
    obtain ⟨hname, hendpoints⟩ := (create_ok_iff settings trust endpoints).mp ⟨service, h⟩
    exact ⟨hlevel, hname, trust, htrust, hendpoints⟩
  · rintro ⟨hlevel, hname, trust, htrust, hendpoints⟩
    obtain ⟨service, hservice⟩ := (create_ok_iff settings trust endpoints).mpr ⟨hname, hendpoints⟩
    have houtcome : (build files settings given endpoints).outcome
        = (create settings trust endpoints).outcome := by
      rw [build, Attempt.outcome_bind, Attempt.ofExcept, hlevel, ok_bind, Attempt.outcome_bind,
        Attempt.ofExcept, htrust, ok_bind]
    exact ⟨service, houtcome.trans hservice⟩

/-- The endpoints of a service that is built have their material. -/
theorem require_of_build {service : Service}
    (h : (build files settings given endpoints).outcome = .ok service) :
    ∀ e ∈ endpoints, service.trust.require e.strategy = .ok () := by
  obtain ⟨-, -, trust, htrust, hendpoints⟩ := build_ok_iff.mp ⟨service, h⟩
  obtain rfl := Except.ok.inj (htrust.symm.trans (trustFor_of_build h))
  exact fun e he => (hendpoints e he).material

end Build

/-- **A service that is built** ends a request to its endpoints in a configuration that cannot work
only as the one does who names the expected subject; with an endpoint that lacks its material no
service is built. -/
theorem build_requires (files : Trust.Files) (settings : Settings) (given : Option Trust)
    (endpoints : List Endpoint) :
    (∀ service, (build files settings given endpoints).outcome = .ok service →
        ∀ e ∈ endpoints, ∀ (r : Request) (now : Instant) (fault : Fault),
          (Authentication.authenticate service.trust e.strategy r now).outcome = .error fault →
            fault.isConfiguration = true →
              Authentication.ByResolver service.trust r e.strategy fault)
      ∧ ∀ trust, trustFor files settings given = .ok trust →
        (∃ e ∈ endpoints, trust.require e.strategy ≠ .ok ()) →
          ∃ fault, (build files settings given endpoints).outcome = .error fault := by
  constructor
  · intro service hservice e he r now fault hfault hconfiguration
    exact Authentication.byResolver_of_isConfiguration (require_of_build hservice e he) hfault
      hconfiguration
  · rintro trust htrust ⟨e, he, hmissing⟩
    cases hbuild : (build files settings given endpoints).outcome with
    | error fault => exact ⟨fault, rfl⟩
    | ok service =>
      obtain rfl := Except.ok.inj (htrust.symm.trans (trustFor_of_build hbuild))
      exact absurd (require_of_build hbuild e he) hmissing

/-- Settings with a static token and a secret for verification tokens, and nothing else. -/
def staticSettings : Settings := .build [("ENGINE_STATIC_TOKEN", "let me in"),
  ("ENGINE_VERIFICATION_TOKEN_SECRET", "correct horse battery staple")] .dev 8080 false

/-- An endpoint of a strategy. -/
def endpointOf (strategy : Strategy) : Endpoint where
  path := "/status"
  method := .get
  handler := fun _ notes => (.ok .null, notes)
  strategy := strategy

/-- A place without key files. -/
def noFiles : Trust.Files := fun _ => .error .fileAbsent

/-- A rule whose expected subject is named by something that is not configured itself. -/
def misconfiguredRule : VerificationRule where
  action := "reset"
  requireCode := false
  subjectResolver := some fun _ => .error (.misconfigured "No directory of subjects")

/-- A request with a token. -/
def tokenRequest : Request where
  method := "GET"
  path := "/status"
  query := []
  headers := [("x-verification-token", "token")]
  body := []
  tls := .null
  client := none
  identity := .absent

/-- A service with such a rule is built, and ends the request as that does who is asked. -/
theorem authenticate_tokenRequest :
    ∃ service, (build noFiles staticSettings none
        [endpointOf (.verification misconfiguredRule)]).outcome = .ok service
      ∧ (Authentication.authenticate service.trust (.verification misconfiguredRule) tokenRequest
        0).outcome = .error (.misconfigured "No directory of subjects") := by
  obtain ⟨service, hservice, hmaterial⟩ := ok_of_map_toOption
    (f := fun service : Service => service.trust.verification.isSome) (b := true)
    (x := (build noFiles staticSettings none
      [endpointOf (.verification misconfiguredRule)]).outcome) (by decide +kernel)
  have hasks : Authentication.AsksSubject service.trust misconfiguredRule tokenRequest := {
    material := Option.isSome_iff_exists.mp hmaterial
    tokenFound := ⟨"token", ok_of_toOption (by decide +kernel)⟩
    codeFound := ⟨none, ok_of_toOption (by decide +kernel), nofun⟩ }
  exact ⟨service, hservice, Authentication.ByResolver.outcome ⟨_, .mk hasks rfl, rfl⟩ 0⟩

theorem build_requires_misconfigured :
    (∃ service fault, (build noFiles staticSettings none
          [endpointOf (.verification misconfiguredRule)]).outcome = .ok service
        ∧ (Authentication.authenticate service.trust (.verification misconfiguredRule) tokenRequest
          0).outcome = .error fault
        ∧ fault.isConfiguration = true
        ∧ Authentication.ByResolver service.trust tokenRequest (.verification misconfiguredRule)
          fault)
      ∧ ∃ fault, (build noFiles staticSettings none
        [endpointOf .static, endpointOf (.jwt .authService)]).outcome = .error fault := by
  constructor
  · obtain ⟨service, hservice, hfault⟩ := authenticate_tokenRequest
    refine ⟨service, _, hservice, hfault, rfl, ?_⟩
    exact (build_requires noFiles staticSettings none
      [endpointOf (.verification misconfiguredRule)]).1 service hservice
        (endpointOf (.verification misconfiguredRule)) List.mem_cons_self tokenRequest 0 _ hfault
        rfl
  · obtain ⟨trust, htrust⟩ : ∃ trust, trustFor noFiles staticSettings none = .ok trust :=
      exists_ok_of_toOption (by decide +kernel)
    refine (build_requires noFiles staticSettings none
      [endpointOf .static, endpointOf (.jwt .authService)]).2 trust htrust
        ⟨endpointOf (.jwt .authService), by simp, ?_⟩
    have hkeyless : (trustFor noFiles staticSettings none).toOption.map
        (fun trust => (trust.tokens.keys .authService).isNone) = some true := by decide +kernel
    rw [htrust] at hkeyless
    have hnone : (trust.tokens.keys .authService).isNone = true := Option.some.inj hkeyless
    intro hrequire
    rw [endpointOf, Trust.require, if_pos hnone] at hrequire
    cases hrequire

/-- So a service that is built can end a request in a configuration that cannot work. -/
theorem not_forall_configured :
    ¬ ∀ (files : Trust.Files) (settings : Settings) (given : Option Trust)
        (endpoints : List Endpoint) (service : Service),
      (build files settings given endpoints).outcome = .ok service →
        ∀ e ∈ endpoints, ∀ (r : Request) (now : Instant) (fault : Fault),
          (Authentication.authenticate service.trust e.strategy r now).outcome = .error fault →
            fault.isConfiguration = false := by
  intro h
  obtain ⟨service, hservice, hfault⟩ := authenticate_tokenRequest
  cases h noFiles staticSettings none [endpointOf (.verification misconfiguredRule)] service
    hservice _ List.mem_cons_self tokenRequest 0 _ hfault

end Portcullis.Service
