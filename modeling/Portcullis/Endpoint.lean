/-
# Endpoints

An endpoint declares a path and a method, how its callers are authenticated, what they must be
permitted, what its input looks like, the hooks that run before its handler, and the hooks that see
what fails.

A request passes through the stages in one order: authentication, permissions, validation, the
hooks, the handler.  Each stage is entered only if all before it succeeded.  What fails from
validation on is offered to the error hooks in turn; the first one that answers anything but `null`
has the last word.  A run keeps the stages it entered, so that this order can be read off it.

The validator, the hooks and the handler are the service's own work, and may fail with a fault of
any kind.  They run in coroutines, and what leaves a coroutine is what arose in it but for one kind
(`Fault.leavingCoroutine`).
-/
import Portcullis.Authentication
import Portcullis.Schema

namespace Portcullis

/-! ## 1. Declarations -/

/-- The methods that an endpoint may have. -/
inductive Method where
  | get
  | post
  | put
  | patch
  | delete
  | head
deriving DecidableEq

namespace Method

/-- The name of a method in requests. -/
def name : Method → Text
  | get => "GET"
  | post => "POST"
  | put => "PUT"
  | patch => "PATCH"
  | delete => "DELETE"
  | head => "HEAD"

/-- The method of a name. -/
def ofName? (name : Text) : Option Method :=
  [get, post, put, patch, delete, head].find? fun m => m.name == name

/-- Whether the input stands in the query rather than in the body. -/
def readsQuery : Method → Bool
  | get | delete | head => true
  | post | put | patch => false

end Method

namespace Endpoint

/-- What hooks and the handler see of a request; the payload is the validated input, if there is
any. -/
structure Context where
  request : Request
  principal : Principal
  payload : Option Members

/-- A piece of work of a service on a request: it fails or yields a result, and may leave notes for
the pieces after it. -/
abbrev Work (α : Type) := Members → Except Fault α × Members

/-- Does a piece of work in a coroutine. -/
def call {α : Type} (work : Work α) : Work α := fun notes =>
  ((work notes).1.mapError Fault.leavingCoroutine, (work notes).2)

/-- Makes the payload of an input, or fails. -/
abbrev Validator := Json → Except Fault Members

/-- Runs before the handler; a failure ends the request. -/
abbrev Hook := Context → Work Unit

/-- Answers the request. -/
abbrev Handler := Context → Work Json

/-- Sees a failure; anything but `null` becomes the answer. -/
abbrev ErrorHook := Context → Fault → Work Json

end Endpoint

/-- An endpoint. -/
structure Endpoint where
  path : Text
  method : Method
  handler : Endpoint.Handler
  strategy : Strategy := .none
  validator : Option Endpoint.Validator := none
  permissions : List Text := []
  status : Int := 200
  /-- Whether a caller whose authentication is refused goes on as anonymous. -/
  acceptInvalid : Bool := false
  hooks : List Endpoint.Hook := []
  errorHooks : List Endpoint.ErrorHook := []

namespace Endpoint

/-- An endpoint as it was declared, when its path may be no path, its method no method (but a value
to show), and its handler and hooks may be missing. -/
structure Draft where
  path : Json
  method : Except Json Method
  handler : Option Handler
  strategy : Strategy := .none
  validator : Option Validator := none
  permissions : List Text := []
  status : Int := 200
  acceptInvalid : Bool := false
  hooks : List (Option Hook) := []
  errorHooks : List (Option ErrorHook) := []

/-- The list of what is there, if nothing is missing. -/
def allThere? {α : Type} : List (Option α) → Option (List α)
  | [] => some []
  | none :: _ => none
  | some a :: rest => (a :: ·) <$> allThere? rest

/-- The path in a declaration, which begins with a slash. -/
def declaredPath (path : Json) : Except Fault Text :=
  match path with
  | .text t => if t.startsWith "/" then .ok t else refused
  | _ => refused
where
  /-- The failure for what is no path. -/
  refused : Except Fault Text :=
    .error (.configuration "Endpoint path must be a string starting with '/'"
      (.ok (.object [("path", path)])) .null none)

/-- The method in a declaration. -/
def declaredMethod (method : Except Json Method) : Except Fault Method :=
  match method with
  | .ok m => .ok m
  | .error shown => .error (.configuration "Endpoint method is not a valid HTTP method"
      (.ok (.object [("method", shown)])) .null none)

/-- What is declared for an endpoint of a path, if it is there. -/
def declared {α : Type} (message path : Text) (part : Option α) : Except Fault α :=
  match part with
  | some a => .ok a
  | none => .error (.configuration message (.ok (.object [("path", .text path)])) .null none)

/-- The message of the fault of a hook that is missing. -/
def hookMissing : Text := "Endpoint middleware is not callable"

/-- The endpoint of a declaration, if each of its parts holds. -/
def ofDraft (d : Draft) : Except Fault Endpoint := do
  let path ← declaredPath d.path
  let method ← declaredMethod d.method
  let handler ← declared "Endpoint handler is not callable" path d.handler
  let hooks ← declared hookMissing path (allThere? d.hooks)
  let errorHooks ← declared hookMissing path (allThere? d.errorHooks)
  return {
    path, method, handler, hooks, errorHooks
    strategy := d.strategy
    validator := d.validator
    permissions := d.permissions
    status := d.status
    acceptInvalid := d.acceptInvalid }

/-! ## 2. Stages -/

/-- The stages that a request can enter; hooks are numbered from zero. -/
inductive Stage where
  | authentication
  | permissions
  | validation
  | hook (index : Nat)
  | handler
  | errorHook (index : Nat)
deriving DecidableEq

/-- The stages that were entered, the notes they left, and what came of them. -/
structure Progress (α : Type) where
  stages : List Stage
  notes : Members
  outcome : Except Fault α

/-- Progress that was preceded by a stage. -/
def Progress.after {α : Type} (stage : Stage) (p : Progress α) : Progress α :=
  { p with stages := stage :: p.stages }

/-! ## 3. Validation -/

/-- The object that is validated: the query or the body of a request; a body that is missing or
cannot be read counts as an empty object. -/
def input (method : Method) (r : Request) : Json :=
  if method.readsQuery then .object r.queryMembers
  else match r.jsonBody with
    | .null => .object []
    | v => v

/-- The problem of an input that is no object. -/
def noObject (schema : Schema) (v : Json) : Schema.Problem :=
  ⟨[], ⟨"model_type",
    ("Input should be a valid dictionary or instance of " : Text) ++ schema.name, []⟩, v⟩

/-- The fields of the input. -/
def readInput (schema : Schema) (v : Json) : Except (List Schema.Problem) Members :=
  match v with
  | .object ms => schema.read ms
  | v => .error [noObject schema v]

/-- The validator that goes by a schema. -/
def validatorOf (schema : Schema) : Validator := fun v =>
  match readInput schema v with
  | .ok fields => .ok fields
  | .error problems => .error (.invalid [] (.list (problems.map Schema.Problem.summary)))

/-- The refusal of an input, with what is wrong with it. -/
def invalidInput (problems : Json) : Fault :=
  .web "Request validation failed" "invalid-request" 400 (.ok .null) problems none

/-- What a request ends in when its validator fails: a value that does not hold is refused, and
everything else leaves the coroutine. -/
def validationFault : Fault → Fault
  | .invalid _ problems => invalidInput problems
  | .settings problems => invalidInput (.list (problems.map FieldProblem.summary))
  | fault => fault.leavingCoroutine

/-- The payload of a request; without a validator there is none. -/
def validate (e : Endpoint) (r : Request) : Except Fault (Option Members) :=
  match e.validator with
  | none => .ok none
  | some validator => match validator (input e.method r) with
    | .ok fields => .ok (some fields)
    | .error fault => .error (validationFault fault)

/-! ## 4. Hooks -/

/-- Runs hooks in turn, the first of them with a number, until one fails. -/
def runHooks (ctx : Context) : Nat → List Hook → Members → Progress Unit
  | _, [], notes => ⟨[], notes, .ok ()⟩
  | i, hook :: rest, notes =>
    match call (hook ctx) notes with
    | (.ok (), notes) => (runHooks ctx (i + 1) rest notes).after (.hook i)
    | (.error fault, notes) => ⟨[.hook i], notes, .error fault⟩

/-- Offers a failure to error hooks in turn, until one answers or fails itself. -/
def runErrorHooks (ctx : Context) (fault : Fault) : Nat → List ErrorHook → Members → Progress Json
  | _, [], notes => ⟨[], notes, .error fault⟩
  | i, hook :: rest, notes =>
    match call (hook ctx fault) notes with
    | (.ok .null, notes) => (runErrorHooks ctx fault (i + 1) rest notes).after (.errorHook i)
    | (.ok answer, notes) => ⟨[.errorHook i], notes, .ok answer⟩
    | (.error other, notes) => ⟨[.errorHook i], notes, .error other⟩

/-- Goes on from a failure with the error hooks. -/
def recover (e : Endpoint) (ctx : Context) (fault : Fault) (stages : List Stage)
    (notes : Members) : Progress Json :=
  let p := runErrorHooks ctx fault 0 e.errorHooks notes
  { p with stages := stages ++ p.stages }

/-! ## 5. A request -/

/-- Serves a caller who is authenticated and permitted: validation, hooks, handler. -/
def serve (e : Endpoint) (r : Request) (principal : Principal) : Progress Json :=
  match e.validate r with
  | .error fault => e.recover ⟨r, principal, none⟩ fault [.validation] []
  | .ok payload =>
    let ctx : Context := ⟨r, principal, payload⟩
    let hooked := runHooks ctx 0 e.hooks []
    let stages := .validation :: hooked.stages
    match hooked.outcome with
    | .error fault => e.recover ctx fault stages hooked.notes
    | .ok () =>
      match call (e.handler ctx) hooked.notes with
      | (.ok answer, notes) => ⟨stages ++ [.handler], notes, .ok answer⟩
      | (.error fault, notes) => e.recover ctx fault (stages ++ [.handler]) notes

/-- What came of a request at an endpoint: what was reported, the stages that were entered, the
identity at the end, and the answer. -/
structure Run where
  events : List Event
  stages : List Stage
  identity : Identity
  outcome : Except Fault Json

/-- The stages before a caller is served. -/
def entry (e : Endpoint) : List Stage :=
  if e.permissions.isEmpty then [.authentication] else [.authentication, .permissions]

/-- Runs a request through the stages of an endpoint. -/
def run (e : Endpoint) (trust : Trust) (r : Request) (now : Instant) : Run :=
  let attached := Authentication.attach trust e.strategy e.acceptInvalid r now
  match attached.outcome with
  | .error fault => ⟨attached.events, [.authentication], r.identity, .error fault⟩
  | .ok principal =>
    let identity : Identity := .principal principal
    match Authentication.requirePermissions e.permissions principal with
    | .error fault => ⟨attached.events, e.entry, identity, .error fault⟩
    | .ok principal =>
      let served := e.serve { r with identity } principal
      ⟨attached.events, e.entry ++ served.stages, identity, served.outcome⟩

end Endpoint

end Portcullis
