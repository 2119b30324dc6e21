/-
# Services

A service is built once, from settings, trust and endpoints: an endpoint whose strategy lacks its
material ends the building, and so does one whose path is no pattern.  Its routes are tried in
order, its own ones first, and of those its documentation; the first one that matches the path and
the method of a request answers it.

Refusals become responses inside the request: they carry its identifier, and the request is reported
as completed.  Every other failure is reported behind the request and has one response that tells
nothing.  What cannot be reported is not answered.
-/
import Portcullis.Endpoint
import Portcullis.Minting
import Portcullis.Pattern

namespace Portcullis

/-! ## 1. Routes -/

/-- What answers the requests of a route. -/
inductive Route.Target where
  /-- A page of the documentation, of a kind of text. -/
  | page (mediaType : Text)
  | health
  | readiness
  | accessMint
  | verificationMint
  | endpoint (e : Endpoint)

/-- A path and its pattern, the methods and what answers. -/
structure Route where
  path : Text
  pattern : Pattern
  methods : List Method
  target : Route.Target

namespace Route

/-- The route of a path without parameters. -/
def ofLiteral (path : Text) (method : Method) (target : Target) : Route :=
  ⟨path, path.map .literal, [method], target⟩

/-- The route of a page of the documentation. -/
def ofPage (path mediaType : Text) : Route :=
  ⟨path, path.map .literal, [.get, .head], .page mediaType⟩

/-- Whether requests of a method are for the route. -/
def takes (route : Route) (method : Text) : Bool := route.methods.any fun m => m.name == method

/-- Whether the path of a request matches that of a route; it is a fault when a parameter has no
value then. -/
def matchesPath (route : Route) (path : Text) : Except Fault Bool :=
  match Pattern.matchText route.pattern path with
  | none => .ok false
  | some stretches => if stretches.all Pattern.hasValue then .ok true else .error (.ofKind .value)

/-- The first route of a path and a method, and the first route of the path; what stands behind the
former is not looked at. -/
def search (path method : Text) : List Route → Except Fault (Option Route × Option Route)
  | [] => .ok (none, none)
  | route :: rest => do
    if ← route.matchesPath path then
      if route.takes method then return (some route, some route)
      else
        let (found, _) ← search path method rest
        return (found, some route)
    else search path method rest

/-- Whether a path matches that of a route. -/
def isKnown (path : Text) : List Route → Except Fault Bool
  | [] => .ok false
  | route :: rest => do
    if ← route.matchesPath path then return true else isKnown path rest

end Route

/-- A service. -/
structure Service where
  settings : Settings
  trust : Trust
  routes : List Route

namespace Service

/-! ## 2. Building -/

/-- The logger of endpoints. -/
def endpointLogger : Text := "server_engine.api.endpoint"

/-- Whether a response of a status may have a body. -/
def allowsBody (status : Int) : Bool :=
  200 ≤ status && status != 204 && status != 205 && status != 304

/-- The event of an endpoint that everyone may call. -/
def unauthenticated (e : Endpoint) : Event :=
  ⟨.warning, endpointLogger, "endpoint.unauthenticated",
    [("method", .text e.method.name), ("path", .text e.path)], none⟩

/-- The event of an endpoint that is registered. -/
def registered (e : Endpoint) : Event :=
  ⟨.debug, endpointLogger, "endpoint.registered",
    [("method", .text e.method.name), ("path", .text e.path),
      ("auth", .text e.strategy.kind.name)], none⟩

/-- The failure when the status of an endpoint forbids the body that it answers with. -/
def bodyForbidden (status : Int) : Fault :=
  .plain .contradiction
    (("Status code " : Text) ++ Text.ofInt status ++ " must not have a response body")

/-- The failure when a path is no pattern. -/
def patternFault (path : Text) : Pattern.Problem → Fault
  | .unknownKind name =>
    .plain .contradiction (("Unknown path convertor '" : Text) ++ name ++ "'")
  | .repeatedName => .plain .value (("Duplicated param name at path " : Text) ++ path)

/-- The pattern of a path that is one. -/
def patternOf (path : Text) : Except Fault Pattern :=
  match Pattern.ofPath path with
  | .ok pattern => .ok pattern
  | .error problem => .error (patternFault path problem)

/-- The route of an endpoint whose strategy has its material. -/
def register (trust : Trust) (e : Endpoint) : Attempt Route := do
  .ofExcept (trust.require e.strategy)
  if e.strategy.kind = .none then .report (unauthenticated e)
  let pattern ← .ofExcept (patternOf e.path)
  if !allowsBody e.status then .fail (bodyForbidden e.status)
  .report (registered e)
  return ⟨e.path, pattern, [e.method], .endpoint e⟩

/-- The routes of endpoints, in their order. -/
def registerAll (trust : Trust) : List Endpoint → Attempt (List Route)
  | [] => .ok []
  | e :: rest => do
    let route ← register trust e
    let routes ← registerAll trust rest
    return route :: routes

/-- The kind of text of the pages that are read in a browser. -/
def hypertext : Text := "text/html; charset=utf-8"

/-- The routes of the documentation. -/
def documentation : List Route := [
  .ofPage "/openapi.json" "application/json", .ofPage "/docs" hypertext,
  .ofPage "/docs/oauth2-redirect" hypertext, .ofPage "/redoc" hypertext]

/-- The routes of the service itself; it mints credentials only outside production. -/
def ownRoutes (stage : Stage) : List Route :=
  let always : List Route := documentation ++
    [.ofLiteral "/healthz" .get .health, .ofLiteral "/readyz" .get .readiness]
  if stage = .prod then always
  else always ++ [.ofLiteral "/v1/dev/token" .post .accessMint,
    .ofLiteral "/v1/dev/verification-token" .post .verificationMint]

/-- The event of a service that is built. -/
def created (s : Settings) (endpoints : List Endpoint) : Event :=
  ⟨.info, "server_engine.api.app", "app.created",
    [("env", .text s.stage.name), ("endpoints", .int endpoints.length)], none⟩

/-- The failure when a service has no name under which its paths could be documented. -/
def untitled : Fault :=
  .plain .contradiction "A title must be provided for OpenAPI, e.g.: 'My API'"

/-- The service of settings, trust and endpoints. -/
def create (settings : Settings) (trust : Trust) (endpoints : List Endpoint) :
    Attempt Service := do
  if settings.serviceName.isEmpty then .fail untitled
  let routes ← registerAll trust endpoints
  .report (created settings endpoints)
  return ⟨settings, trust, ownRoutes settings.stage ++ routes⟩

/-- The trust of a service: the one that is given, or else the one that settings and key files
describe. -/
def trustFor (files : Trust.Files) (settings : Settings) (given : Option Trust) :
    Except Fault Trust :=
  match given with
  | some trust => .ok trust
  | none => Trust.ofSettings files settings

/-- The service of settings, key files and endpoints, under a trust that may be given. -/
def build (files : Trust.Files) (settings : Settings) (given : Option Trust)
    (endpoints : List Endpoint) : Attempt Service := do
  .ofExcept (Level.require settings.logLevel)
  let trust ← .ofExcept (trustFor files settings given)
  create settings trust endpoints

/-- The service of settings, key files and endpoints. -/
def ofSettings (files : Trust.Files) (settings : Settings) (endpoints : List Endpoint) :
    Attempt Service :=
  build files settings none endpoints

/-! ## 3. Readiness -/

/-- Which strategies have their material. -/
def readiness (trust : Trust) : Json := .object [
  ("jwt", .bool (trust.tokens.keys .authService).isSome),
  ("hmac", .bool trust.signatureSecret.isSome),
  ("static", .bool trust.static.isSome),
  ("tls", .bool trust.transport.isEnabled),
  ("verification", .bool trust.verification.isSome)]

/-! ## 4. Answering -/

/-- What came of a request at its route: what was reported, the identity at the end, the response or
the failure, and how many digits were drawn. -/
structure Course where
  events : List Event := []
  identity : Identity
  outcome : Except Fault Response
  drawn : Nat := 0

/-- What answers a request at a route. -/
def answer (s : Service) (r : Request) (m : Moment) : Route.Target → Course
  | .page mediaType => { identity := r.identity, outcome := .ok (.page mediaType) }
  | .health => {
      identity := r.identity
      outcome := Response.ofResult 200 (.object [("status", .text "ok")]) }
  | .readiness => {
      identity := r.identity
      outcome := Response.ofResult 200
        (.object [("status", .text "ready"), ("strategies", readiness s.trust)]) }
  | .accessMint =>
    let run := Minting.access s.trust r m
    { identity := r.identity, outcome := run.outcome, drawn := run.drawn }
  | .verificationMint =>
    let run := Minting.verification s.trust r m
    { identity := r.identity, outcome := run.outcome, drawn := run.drawn }
  | .endpoint e =>
    let run := e.run s.trust r (Instant.reading m.now)
    { events := run.events, identity := run.identity
      outcome := run.outcome.bind (Response.ofResult e.status) }

/-- The path with its slashes at the end taken away, or with one put there. -/
def otherPath (path : Text) : Text :=
  if path.endsWith "/" then (path.reverse.dropWhile (· == Pattern.slash)).reverse
  else path ++ [Pattern.slash]

/-- The response when there is a route of the path, but of other methods. -/
def otherMethod (route : Route) : Except Fault Response :=
  Response.ofBody 405 [("allow", Text.join ", " (route.methods.map Method.name))]
    (Response.detailBody (.text "Method Not Allowed"))

/-- The response when there is no route of the path: there may be one of its other form. -/
def unanswered (s : Service) (path : Text) : Except Fault Response := do
  let elsewhere ← if path = [Pattern.slash] then pure false
    else Route.isKnown (otherPath path) s.routes
  return if elsewhere then Response.redirect else .ofDetail 404 "Not Found"

/-- Sends a request to the first route of its path and method. -/
def dispatch (s : Service) (r : Request) (m : Moment) : Course :=
  match Route.search r.path r.method s.routes with
  | .error fault => { identity := r.identity, outcome := .error fault }
  | .ok (some route, _) => s.answer r m route.target
  | .ok (none, some route) => { identity := r.identity, outcome := otherMethod route }
  | .ok (none, none) => { identity := r.identity, outcome := s.unanswered r.path }

/-- A refusal becomes a response, and is reported. -/
def settle (r : Request) (c : Course) : Course :=
  match c.outcome with
  | .error (.web message code status data hint cause) =>
    match Report.fault (.web message code status data hint cause)
        (some { r with identity := c.identity }) with
    | .error other => { c with outcome := .error other }
    | .ok event =>
      { c with
        events := c.events ++ [event]
        outcome := Response.ofBody status [] (Response.errorBody code hint) }
  | _ => c

/-! ## 5. Requests -/

/-- The identifier of a request: the one that it brings, or else one that is given out. -/
def identifierOf (r : Request) (m : Moment) : Text :=
  match r.header? "x-request-id" with
  | some (c :: t) => c :: t
  | _ => m.identifier

/-- What is bound to all events inside a request. -/
def boundFields (r : Request) (identifier : Text) : Members := [
  ("request_id", .text identifier), ("path", .text (Report.addressPath r.path)),
  ("method", .text r.method), ("client", .ofText? r.client)]

/-- The event of a request that is completed. -/
def completed (status : Int) : Event :=
  ⟨.info, "server_engine.observability.middleware", "request.completed",
    [("status_code", .int status)], none⟩

/-- What came of a request: the response, the events inside the request with what is bound to them,
those behind it, and how many digits were drawn.  A failure is reported before it is answered,
and without its report there is no response. -/
structure Reply where
  response : Option Response
  bound : Members
  events : List Event := []
  eventsBehind : List Event := []
  drawn : Nat := 0

/-- Answers a request whose address can be written. -/
def respondTo (s : Service) (r : Request) (m : Moment) : Reply :=
  let identifier := identifierOf r m
  let bound := boundFields r identifier
  let c := settle r (s.dispatch r m)
  match c.outcome with
  | .ok response => {
      response := some { response with
        headers := response.headers ++ [(("x-request-id" : Text), identifier)] }
      bound
      events := c.events ++ [completed response.status]
      drawn := c.drawn }
  | .error fault =>
    match Report.fault fault (some { r with identity := c.identity }) with
    | .ok event => {
        response := some .internal
        bound
        events := c.events
        eventsBehind := [event]
        drawn := c.drawn }
    | .error _ => { response := none, bound, events := c.events, drawn := c.drawn }

/-- Answers a request. -/
def respond (s : Service) (r : Request) (m : Moment) : Reply :=
  match Report.requestFields r with
  | .ok _ => s.respondTo r m
  | .error _ => { response := none, bound := [] }

/-- The lines that are written for events. -/
def lines (s : Settings) (bound : Members) (events : List Event) : List Json :=
  Event.renderAll (Level.threshold s.logLevel) s.serviceName bound events

/-- The lines that are written for a request. -/
def Reply.lines (reply : Reply) (s : Settings) : List Json :=
  Service.lines s reply.bound reply.events ++ Service.lines s [] reply.eventsBehind

end Service

end Portcullis
