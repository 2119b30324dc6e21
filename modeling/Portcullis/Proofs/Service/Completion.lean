/-
# Which requests are completed

A request is completed (`Completes`) when its response carries its identifier and the completion is
reported once, with the status of the response.  Both happen inside the request, behind whatever
answers it: a request that is answered there is completed, and so is one whose refusal is answered
there (`Settles`).  A failure that leaves the request before, be it of authentication, of a hook or
of the handler, is answered behind it, without an identifier and without a report of completion.

**Main statement.**  `completes_iff_settles`.
-/
import Portcullis.Proofs.Authentication.Reports
import Portcullis.Proofs.Service.Boundary

namespace Portcullis

/-! ## 1. Responses without an identifier -/

namespace Response

/-- The identifiers in the headers of a response. -/
def identifiers (response : Response) : List Text :=
  (response.headers.filter fun header => header.1 == ("x-request-id" : Text)).map Prod.snd

/-- No header of the response is for an identifier. -/
def Unmarked (response : Response) : Prop :=
  ("x-request-id" : Text) ∉ response.headers.map Prod.fst

theorem Unmarked.identifiers_eq {response : Response} (h : response.Unmarked) :
    response.identifiers = [] := by
  refine List.map_eq_nil_iff.mpr (List.filter_eq_nil_iff.mpr fun header hheader hname => ?_)
  exact h (List.mem_map.mpr ⟨header, hheader, eq_of_beq hname⟩)

/-- A response without an identifier that is given one has that one. -/
theorem Unmarked.identifiers_append {response : Response} (h : response.Unmarked)
    (identifier : Text) :
    identifiers { response with
      headers := response.headers ++ [(("x-request-id" : Text), identifier)] }
      = [identifier] := by
  have hnone := h.identifiers_eq
  rw [identifiers] at hnone ⊢
  rw [List.filter_append, List.map_append, hnone]
  rfl

theorem unmarked_jsonHeaders {status : Int} {headers : List (Text × Text)} {body : Option Json}
    (h : ("x-request-id" : Text) ∉ headers.map Prod.fst) :
    Unmarked ⟨status, jsonHeaders ++ headers, body⟩ := by
  have hjson : ("x-request-id" : Text) ∉ jsonHeaders.map Prod.fst := by decide
  rw [Unmarked, List.map_append, List.mem_append]
  rintro (hmem | hmem)
  · exact hjson hmem
  · exact h hmem

theorem unmarked_ofDetail (status : Int) (detail : Text) : (ofDetail status detail).Unmarked :=
  unmarked_jsonHeaders List.not_mem_nil

theorem unmarked_redirect : redirect.Unmarked := List.not_mem_nil

theorem unmarked_page (mediaType : Text) : (page mediaType).Unmarked := by
  have hother : ("x-request-id" : Text) ≠ "content-type" := by decide
  exact mt List.mem_singleton.mp hother

theorem unmarked_internal : internal.Unmarked := unmarked_jsonHeaders List.not_mem_nil

theorem unmarked_of_ofBody {status : Int} {headers : List (Text × Text)} {v : Json}
    {response : Response} (h : ofBody status headers v = .ok response)
    (hheaders : ("x-request-id" : Text) ∉ headers.map Prod.fst) : response.Unmarked := by
  obtain ⟨b, -, h⟩ := bind_eq_ok h
  obtain rfl := Except.ok.inj h
  exact unmarked_jsonHeaders hheaders

theorem unmarked_of_ofResult {status : Int} {v : Json} {response : Response}
    (h : ofResult status v = .ok response) : response.Unmarked := by
  rw [ofResult] at h
  split at h
  · cases h
  · obtain rfl := Except.ok.inj h
    exact unmarked_jsonHeaders List.not_mem_nil

end Response

open Response

theorem Form.Refusal.unmarked_of_response {refusal : Form.Refusal} {response : Response}
    (h : refusal.response = .ok response) : response.Unmarked := by
  cases refusal with
  | invalid problems => exact unmarked_of_ofBody h List.not_mem_nil
  | notJson diagnosis => exact unmarked_of_ofBody h List.not_mem_nil
  | unreadable =>
    obtain rfl := Except.ok.inj h
    exact unmarked_ofDetail _ _

namespace Minting

theorem unmarked_of_mintAccess {trust : Trust} {fields : Members} {m : Moment}
    {response : Response} (h : mintAccess trust fields m = .ok response) : response.Unmarked := by
  unfold mintAccess at h
  simp only at h
  split at h
  · exact unmarked_of_ofResult h
  · obtain rfl := Except.ok.inj h
    exact unmarked_ofDetail _ _
  · cases h

theorem unmarked_of_mintVerification {trust : Trust} {fields : Members} {m : Moment}
    {response : Response} (h : (mintVerification trust fields m).outcome = .ok response) :
    response.Unmarked := by
  unfold mintVerification at h
  split at h
  · obtain rfl := Except.ok.inj h
    exact unmarked_ofDetail _ _
  · simp only at h
    split at h
    · exact unmarked_of_ofResult h
    · cases h

theorem unmarked_of_access {trust : Trust} {r : Request} {m : Moment} {response : Response}
    (h : (access trust r m).outcome = .ok response) : response.Unmarked := by
  unfold access at h
  split at h
  · cases h
  · exact Form.Refusal.unmarked_of_response h
  · exact unmarked_of_mintAccess h

theorem unmarked_of_verification {trust : Trust} {r : Request} {m : Moment} {response : Response}
    (h : (verification trust r m).outcome = .ok response) : response.Unmarked := by
  unfold verification at h
  split at h
  · cases h
  · exact Form.Refusal.unmarked_of_response h
  · exact unmarked_of_mintVerification h

end Minting

namespace Service

variable {s : Service} {r : Request} {m : Moment} {response : Response}

theorem unmarked_of_answer {target : Route.Target}
    (h : (s.answer r m target).outcome = .ok response) : response.Unmarked := by
  cases target with
  | page mediaType =>
    obtain rfl := Except.ok.inj h
    exact unmarked_page mediaType
  | health =>
    simp only [answer] at h
    exact unmarked_of_ofResult h
  | readiness =>
    simp only [answer] at h
    exact unmarked_of_ofResult h
  | accessMint => exact Minting.unmarked_of_access h
  | verificationMint => exact Minting.unmarked_of_verification h
  | endpoint e =>
    rw [answer] at h
    obtain ⟨v, -, h⟩ := bind_eq_ok h
    exact unmarked_of_ofResult h

theorem unmarked_of_unanswered {path : Text} (h : s.unanswered path = .ok response) :
    response.Unmarked := by
  have hgoesOn : ∀ elsewhere : Bool,
      (if elsewhere then Response.redirect else .ofDetail 404 "Not Found").Unmarked := by
    rintro (_ | _)
    · exact unmarked_ofDetail _ _
    · exact unmarked_redirect
  unfold unanswered at h
  simp only at h
  split at h
  · obtain ⟨elsewhere, -, h⟩ := bind_eq_ok h
    obtain rfl := Except.ok.inj h
    exact hgoesOn elsewhere
  · obtain ⟨elsewhere, -, h⟩ := bind_eq_ok h
    obtain rfl := Except.ok.inj h
    exact hgoesOn elsewhere

/-- Whatever answers a request leaves its identifier to what is around it. -/
theorem unmarked_of_dispatch (h : (s.dispatch r m).outcome = .ok response) :
    response.Unmarked := by
  rw [dispatch] at h
  split at h
  · cases h
  · exact unmarked_of_answer h
  · refine unmarked_of_ofBody h fun hmem => ?_
    have hallow : ("x-request-id" : Text) = "allow" := List.mem_singleton.mp hmem
    exact absurd hallow (by decide)
  · exact unmarked_of_unanswered h

/-! ## 2. Reports of completion -/

/-- The event is the report of a completion. -/
def isCompletion (e : Event) : Bool :=
  e.logger == "server_engine.observability.middleware" && e.message == "request.completed"

theorem not_isCompletion_of_logger {e : Event}
    (h : e.logger = Authentication.logger ∨ e.logger = Report.faultLogger) :
    isCompletion e = false := by
  have hother : e.logger ≠ "server_engine.observability.middleware" := by
    rcases h with h | h
    · rw [h]
      decide
    · rw [h]
      decide
  rw [isCompletion, beq_eq_false_iff_ne.mpr hother, Bool.false_and]

/-- An endpoint reports nothing but what is reported while its caller is attached. -/
theorem events_run (e : Endpoint) (trust : Trust) (r : Request) (now : Instant) :
    (e.run trust r now).events
      = (Authentication.attach trust e.strategy e.acceptInvalid r now).events := by
  rw [Endpoint.run]
  simp only
  split
  · rfl
  · split
    · rfl
    · rfl

/-- Whatever answers a request leaves the report of its completion to what is around it. -/
theorem not_isCompletion_of_dispatch {e : Event} (he : e ∈ (s.dispatch r m).events) :
    isCompletion e = false := by
  rw [dispatch] at he
  split at he
  · cases he
  · next route _ _ =>
    cases htarget : route.target with
    | endpoint endpoint =>
      rw [htarget, answer, events_run] at he
      exact not_isCompletion_of_logger (Authentication.reportsOnly_attach _ _ _ _ _ e he)
    | _ =>
      rw [htarget] at he
      cases he
  · cases he
  · cases he

theorem not_isCompletion_of_settle {e : Event} (he : e ∈ (settle r (s.dispatch r m)).events) :
    isCompletion e = false := by
  unfold settle at he
  split at he
  · split at he
    · exact not_isCompletion_of_dispatch he
    · next hreport =>
      rcases List.mem_append.mp he with hbefore | hlast
      · exact not_isCompletion_of_dispatch hbefore
      · rw [List.mem_singleton.mp hlast]
        exact not_isCompletion_of_logger (Or.inr (Report.logger_of_fault hreport))
  · exact not_isCompletion_of_dispatch he

/-! ## 3. Completion -/

/-- The reports of completion in what came of a request. -/
def completions (reply : Reply) : List Event :=
  (reply.events ++ reply.eventsBehind).filter isCompletion

/-- The identifier of a request is the one that it brings, or the one that is given out if it brings
none or an empty one. -/
def Identifies (r : Request) (m : Moment) (identifier : Text) : Prop :=
  (r.header? "x-request-id" = some identifier ∧ identifier ≠ [])
    ∨ ((r.header? "x-request-id" = none ∨ r.header? "x-request-id" = some [])
      ∧ identifier = m.identifier)

theorem identifies_identifierOf (r : Request) (m : Moment) : Identifies r m (identifierOf r m) := by
  unfold identifierOf
  split
  · next c t h => exact Or.inl ⟨h, List.cons_ne_nil c t⟩
  · next hno =>
    refine Or.inr ⟨?_, rfl⟩
    cases hheader : r.header? "x-request-id" with
    | none => exact Or.inl rfl
    | some t =>
      cases t with
      | nil => exact Or.inr rfl
      | cons c t => exact absurd hheader (hno c t)

/-- A request is completed: its response carries its identifier, once, and its completion is
reported once, with the status of the response. -/
def Completes (s : Service) (r : Request) (m : Moment) : Prop :=
  ∃ response identifier, (s.respond r m).response = some response ∧ Identifies r m identifier
    ∧ response.identifiers = [identifier]
    ∧ completions (s.respond r m) = [completed response.status]

/-- A request is settled inside: it is answered, or it is refused and the refusal can be reported
and written. -/
inductive Settles (s : Service) (r : Request) (m : Moment) : Prop
  | answered {response : Response} (address : ∃ shown, Report.requestFields r = .ok shown)
      (outcome : (s.dispatch r m).outcome = .ok response) : Settles s r m
  | refused {message code : Text} {status : Int} {data : Except Fault Json} {hint : Json}
      {cause : Option Fault}
      (reportable : (Fault.web message code status data hint cause).Reportable
        ∧ (s.reported r m).Reportable)
      (outcome : (s.dispatch r m).outcome = .error (.web message code status data hint cause))
      (written : ∃ b, (Response.errorBody code hint).octets = .ok b) : Settles s r m

/-- What is settled inside the request completes it. -/
theorem completes_of_settle_ok (hread : ∃ shown, Report.requestFields r = .ok shown)
    (h : (settle r (s.dispatch r m)).outcome = .ok response) (hunmarked : response.Unmarked) :
    s.Completes r m := by
  have hreply := respond_of_ok hread h
  have hsilent : (settle r (s.dispatch r m)).events.filter isCompletion = [] :=
    List.filter_eq_nil_iff.mpr fun e he => ne_true_of_eq_false (not_isCompletion_of_settle he)
  refine ⟨_, identifierOf r m, congrArg Reply.response hreply, identifies_identifierOf r m,
    hunmarked.identifiers_append _, ?_⟩
  rw [completions, hreply, List.append_nil, List.filter_append, hsilent]
  rfl

theorem Settles.completes (h : s.Settles r m) : s.Completes r m := by
  cases h with
  | answered hread houtcome =>
    have hsettle : settle r (s.dispatch r m) = s.dispatch r m :=
      settle_of_not_web fun fault hfault => nomatch houtcome.symm.trans hfault
    exact completes_of_settle_ok hread (hsettle.symm ▸ houtcome) (unmarked_of_dispatch houtcome)
  | @refused message code status data hint cause hreportable houtcome hwritten =>
    have hok := settle_of_refusal hreportable.1 hreportable.2 houtcome hwritten
    have hread : ∃ shown, Report.requestFields r = .ok shown := hreportable.2.address
    exact completes_of_settle_ok hread hok (unmarked_jsonHeaders List.not_mem_nil)

/-- A refusal that withstands its report, or whose body cannot be written, ends in that failure. -/
theorem settle_of_withstood {message code : Text} {status : Int} {data : Except Fault Json}
    {hint : Json} {cause : Option Fault}
    (h : (s.dispatch r m).outcome = .error (.web message code status data hint cause))
    (hwithstood : (Fault.web message code status data hint cause).Reportable →
      (s.reported r m).Reportable → ¬ ∃ b, (errorBody code hint).octets = .ok b) :
    ∃ fault, (settle r (s.dispatch r m)).outcome = .error fault := by
  cases hreport : Report.fault (.web message code status data hint cause)
      (some (s.reported r m)) with
  | error other =>
    rw [settle_of_unreported h hreport]
    exact ⟨other, rfl⟩
  | ok event =>
    obtain ⟨hfault, hreported⟩ := (Report.fault_ok_iff _ _).mp ⟨event, hreport⟩
    rw [settle_of_reported h hreport]
    cases hoctets : (errorBody code hint).octets with
    | ok b => exact absurd ⟨b, hoctets⟩ (hwithstood hfault hreported)
    | error other =>
      refine ⟨other, ?_⟩
      simp only [ofBody, hoctets]
      rfl

/-- A request whose address can be read and that is not settled inside fails there. -/
theorem settle_of_not_settles (h : ¬ s.Settles r m)
    (hread : ∃ shown, Report.requestFields r = .ok shown) :
    ∃ fault, (settle r (s.dispatch r m)).outcome = .error fault := by
  cases houtcome : (s.dispatch r m).outcome with
  | ok response => exact absurd (.answered hread houtcome) h
  | error fault =>
    cases fault with
    | web message code status data hint cause =>
      refine settle_of_withstood houtcome fun hfault hreported hwritten => ?_
      exact h (.refused ⟨hfault, hreported⟩ houtcome hwritten)
    | _ =>
      -- What is no refusal is left as it is.
      rw [settle_of_not_web fun other hother => by
        obtain rfl := Except.error.inj (houtcome.symm.trans hother)
        rfl]
      exact ⟨_, houtcome⟩

/-- A request that is not settled inside has no report of completion, and if there is a response, it
is that of whatever fails. -/
theorem respond_of_not_settles (h : ¬ s.Settles r m) :
    completions (s.respond r m) = []
      ∧ ∀ response, (s.respond r m).response = some response → response = .internal := by
  by_cases hread : ∃ shown, Report.requestFields r = .ok shown
  case neg =>
    rw [respond_of_unreadable hread]
    exact ⟨rfl, fun response hresponse => nomatch hresponse⟩
  have hsilent : (settle r (s.dispatch r m)).events.filter isCompletion = [] :=
    List.filter_eq_nil_iff.mpr fun e he => ne_true_of_eq_false (not_isCompletion_of_settle he)
  obtain ⟨fault, hfault⟩ := settle_of_not_settles h hread
  cases hreport : Report.fault fault (some (s.reported r m)) with
  | ok event =>
    have hbehind : isCompletion event = false :=
      not_isCompletion_of_logger (Or.inr (Report.logger_of_fault hreport))
    rw [completions, respond_of_error hfault hread hreport, List.filter_append, hsilent,
      List.filter_cons_of_neg (ne_true_of_eq_false hbehind)]
    exact ⟨rfl, fun response hresponse => (Option.some.inj hresponse).symm⟩
  | error other =>
    rw [completions, respond_of_unreported hfault hread hreport, List.append_nil, hsilent]
    exact ⟨rfl, fun response hresponse => nomatch hresponse⟩

/-- **A request is completed exactly if it is settled inside.**  If it is not, its completion is not
reported at all, and a response that there is has the status of a failure and no identifier. -/
theorem completes_iff_settles (s : Service) (r : Request) (m : Moment) :
    (s.Completes r m ↔ s.Settles r m)
      ∧ (¬ s.Settles r m → completions (s.respond r m) = []
        ∧ ∀ response, (s.respond r m).response = some response →
          response.status = 500 ∧ response.identifiers = []) := by
  have hfails : ¬ s.Settles r m → completions (s.respond r m) = []
      ∧ ∀ response, (s.respond r m).response = some response →
        response.status = 500 ∧ response.identifiers = [] := by
    intro h
    obtain ⟨hnone, hinternal⟩ := respond_of_not_settles h
    refine ⟨hnone, fun response hresponse => ?_⟩
    rw [hinternal response hresponse]
    exact ⟨rfl, unmarked_internal.identifiers_eq⟩
  refine ⟨⟨fun hcompletes => ?_, Settles.completes⟩, hfails⟩
  by_contra h
  obtain ⟨response, identifier, -, -, -, hreported⟩ := hcompletes
  rw [(hfails h).1] at hreported
  cases hreported

/-- A request to an endpoint that fails. -/
def statusRequest : Request where
  method := "GET"
  path := "/status"
  query := []
  headers := []
  body := []
  tls := .null
  client := none
  identity := .absent

/-- A service completes a request that is answered. -/
theorem completes_statusRequest :
    ∃ service, (build noFiles staticSettings none [endpointOf .none]).outcome = .ok service
      ∧ service.Completes statusRequest firstMoment := by
  obtain ⟨service, hservice, hanswered⟩ := ok_of_map_toOption
    (x := (build noFiles staticSettings none [endpointOf .none]).outcome)
    (f := fun service => (service.dispatch statusRequest firstMoment).outcome.toOption.isSome)
    (b := true) (by decide +kernel)
  obtain ⟨response, hresponse⟩ := exists_ok_of_toOption hanswered
  refine ⟨service, hservice, ?_⟩
  exact (completes_iff_settles service statusRequest firstMoment).1.mpr
    (.answered ⟨_, rfl⟩ hresponse)

/-- A service that is built completes no request to an endpoint that fails: the client gets a
response without an identifier. -/
theorem not_completes_failingEndpoint :
    ∃ service, (build noFiles staticSettings none [failingEndpoint]).outcome = .ok service
      ∧ ¬ service.Completes statusRequest firstMoment
      ∧ ∃ response, (service.respond statusRequest firstMoment).response = some response
        ∧ response.status = 500 ∧ response.identifiers = []
        ∧ completions (service.respond statusRequest firstMoment) = [] := by
  obtain ⟨service, hservice, hreply⟩ := ok_of_map_toOption
    (x := (build noFiles staticSettings none [failingEndpoint]).outcome)
    (f := fun service =>
      ((service.respond statusRequest firstMoment).response.map fun x => (x.status, x.identifiers),
        (completions (service.respond statusRequest firstMoment)).length))
    (b := (some (500, []), 0)) (by decide +kernel)
  obtain ⟨hresponse, hlength⟩ := Prod.mk.inj hreply
  obtain ⟨response, hsome, hpair⟩ := Option.map_eq_some_iff.mp hresponse
  obtain ⟨hstatus, hidentifiers⟩ := Prod.mk.inj hpair
  have hnone := List.eq_nil_of_length_eq_zero hlength
  refine ⟨service, hservice, ?_, response, hsome, hstatus, hidentifiers, hnone⟩
  rintro ⟨_, _, -, -, -, hreported⟩
  rw [hnone] at hreported
  cases hreported

end Service

end Portcullis
