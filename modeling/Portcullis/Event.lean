/-
# Events

What a service reports of its work: a level, who reports, a message and fields.  An event is written
as one object; fields that are bound to the request stand behind the event's own, and fields with a
secret name are masked once more on the way out.  Of a fault that is shown with an event its kind
and its message are written; the calls that were under way are left out, and so is the time.

An attempt is a computation that may fail and reports events whether it fails or not.
-/
import Portcullis.Fault
import Portcullis.Redaction
import Portcullis.Request

namespace Portcullis

/-! ## 1. Events -/

/-- How grave an event is. -/
inductive Level where
  | debug
  | info
  | warning
  | error
deriving DecidableEq

namespace Level

/-- The name of a level in reports. -/
def name : Level → Text
  | debug => "debug"
  | info => "info"
  | warning => "warning"
  | error => "error"

/-- The number of a level. -/
def rank : Level → Nat
  | debug => 10
  | info => 20
  | warning => 30
  | error => 40

/-- The number from which on events are written, for a level named in any letter case; an unknown
name means the level of information. -/
def threshold (name : Text) : Nat :=
  let names : List (Text × Nat) := [
    ("CRITICAL", 50), ("FATAL", 50), ("ERROR", 40), ("WARNING", 30), ("WARN", 30), ("INFO", 20),
    ("DEBUG", 10), ("NOTSET", 0)]
  (names.lookup name.upper).getD 20

/-- Refuses the two names, in any letter case, that mean something else than a level to the log. -/
def require (name : Text) : Except Fault Unit :=
  if name.upper = "BASIC_FORMAT" then .error (.ofKind .value)
  else if name.upper = "_STYLES" then .error (.ofKind .type)
  else .ok ()

end Level

/-- Something that is reported; `fault` is what is shown with its kind and message. -/
structure Event where
  level : Level
  logger : Text
  message : Text
  fields : Members
  fault : Option Fault := none

namespace Event

/-- Masks the members with a secret name. -/
def maskSecrets (ms : Members) : Members :=
  ms.map fun (k, v) => (k, if Redaction.secretNames.contains k then v.redact else v)

/-- Adds a member unless there is one of that name. -/
def setDefault (name : Text) (v : Json) (ms : Members) : Members :=
  if ms.has name then ms else ms ++ Members.single name v

/-- The event as an object, for a service and with the fields bound to the request. -/
def render (service : Text) (bound : Members) (e : Event) : Members :=
  let own := bound.setAll (e.fields ++ Members.single "event" (.text e.message))
  let placed := own.setAll [("level", .text e.level.name), ("logger", .text e.logger)]
  let masked := maskSecrets (setDefault "service" (.text service) placed)
  match e.fault with
  | none => masked
  | some f =>
    Members.set "exception" (.object [("type", .text f.name), ("value", .text f.message)]) masked

/-- The events of a level that is written, as objects. -/
def renderAll (threshold : Nat) (service : Text) (bound : Members) (events : List Event) :
    List Json :=
  (events.filter fun e => threshold ≤ e.level.rank).map fun e => .object (render service bound e)

end Event

/-! ## 2. Attempts -/

/-- A result or a fault, and the events on the way to it. -/
structure Attempt (α : Type) where
  events : List Event
  outcome : Except Fault α

namespace Attempt

/-- A result without events. -/
def ok {α : Type} (a : α) : Attempt α := ⟨[], .ok a⟩

/-- A fault without events. -/
def fail {α : Type} (f : Fault) : Attempt α := ⟨[], .error f⟩

/-- A result or fault without events. -/
def ofExcept {α : Type} (x : Except Fault α) : Attempt α := ⟨[], x⟩

/-- Reports an event. -/
def report (e : Event) : Attempt Unit := ⟨[e], .ok ()⟩

/-- Goes on from the result of an attempt. -/
def andThen {α β : Type} (x : Attempt α) (f : α → Attempt β) : Attempt β :=
  match x.outcome with
  | .error fault => ⟨x.events, .error fault⟩
  | .ok a => ⟨x.events ++ (f a).events, (f a).outcome⟩

instance : Monad Attempt where
  pure := ok
  bind := andThen

/-- Goes on from the fault of an attempt. -/
def recover {α : Type} (x : Attempt α) (f : Fault → Attempt α) : Attempt α :=
  match x.outcome with
  | .ok _ => x
  | .error fault => ⟨x.events ++ (f fault).events, (f fault).outcome⟩

end Attempt

/-! ## 3. Reports -/

namespace Report

/-- A step or decision, with its data scrubbed. -/
def debug (logger message : Text) (data : Members) : Event :=
  ⟨.debug, logger, message, Json.scrubMembers data, none⟩

/-- The names that every step has for itself. -/
def ownNames : List Text := ["namespace", "message", "event", "self", "method_name"]

/-- The name under which a line would show the failure under way; a step has none. -/
def failureName : Text := "exc_info"

/-- The name under which a line would show the record that it is made from. -/
def recordName : Text := "_record"

/-- A step with data that may have any names, if its level is among those that are written; the
names that every step has for itself are refused, and so is a value in place of a record. -/
def debugWith (threshold : Nat) (logger message : Text) (data : Members) : Except Fault Event :=
  if data.any fun m => ownNames.contains m.1 then .error (.ofKind .type)
  else if threshold ≤ Level.rank .debug && !(data.getD recordName).isNull then
    .error (.ofKind .operation)
  else .ok (debug logger message (data.filter fun m => m.1 != failureName))

/-- The logger of faults. -/
def faultLogger : Text := "server_engine.errors"

/-- The escape of a sign that would end the path in an address, or divide it. -/
def escapeSign (c : CodePoint) : Text :=
  if c.val = 0x3F then "%3F"
  else if c.val = 0x23 then "%23"
  else if c.val = 0x5C then "%5C"
  else [c]

/-- The path in the address of a request: it begins with a slash unless it is empty, and tabs and
line ends are left out. -/
def addressPath (path : Text) : Text :=
  let escaped := path.flatMap escapeSign
  let rooted := if escaped.isEmpty || Text.startsWith escaped "/" then escaped
    else CodePoint.ofNat 0x2F :: escaped
  rooted.filter fun c => c.val != 0x09 && c.val != 0x0A && c.val != 0x0D

/-- What a report shows of a request.  Its address is read together with the query, which has to be
in UTF-8 for that. -/
def requestFields (r : Request) : Except Fault Json :=
  if (Utf8.decode? (r.query.map fun c => UInt8.ofNat c.val)).isNone then .error (.ofKind .decoding)
  else .ok (.object [
    ("url", .text (addressPath r.path)), ("method", .text r.method),
    ("user_agent", .ofText? (r.header? "user-agent")), ("remote_ip", .ofText? r.client)])

/-- The subject of the identity of a request.  A foreign one may have none to ask for. -/
def userFields (identity : Identity) : Except Fault Members :=
  match identity with
  | .absent => .ok []
  | .foreign none => .error (.ofKind .operation)
  | .foreign (some v) => .ok (if v.isTruthy then [("user", v)] else [])
  | .principal p => match p.subject with
    | some (c :: t) => .ok [("user", .text (c :: t))]
    | _ => .ok []

/-- What a report shows of the circumstances of a fault: the request in which it arose. -/
def circumstances : Option Request → Except Fault Members
  | none => .ok []
  | some r => do
    let shown ← requestFields r
    let user ← userFields r.identity
    return Members.single "http_request" shown ++ user

/-- What a report shows of the cause of a fault. -/
def causeFields : Option Fault → Except Fault Members
  | some cause => do return [("cause", .text (← cause.shown))]
  | none => .ok []

/-- What a report shows of the data of a fault and of its cause. -/
def detailFields (data : Except Fault Json) (cause : Option Fault) : Except Fault Members := do
  let data ← data
  let cause ← causeFields cause
  return Members.single "data" data.scrub ++ cause

/-- What a report shows of a fault. -/
def faultFields (f : Fault) : Except Fault Members := do
  let kind : Members := [("error_type", .text f.name)]
  match f with
  | .web _ code status data _ cause =>
    let codes : Members := [("error_code", .text code), ("status_code", .int status)]
    return kind ++ (← detailFields data cause) ++ codes
  | .engine _ data _ cause | .configuration _ data _ cause =>
    return kind ++ (← detailFields data cause)
  | _ => return kind

/-- The level of the report of a fault: refusals below status 500 are expected. -/
def faultLevel : Fault → Level
  | .web _ _ status _ _ _ => if status < 500 then .warning else .error
  | _ => .error

/-- The report of a fault with what is shown of it and its text.  Only the graver ones show the
fault itself. -/
def eventOf (f : Fault) (fields : Members) (text : Text) : Event :=
  ⟨faultLevel f, faultLogger, text, fields, if faultLevel f = .error then some f else none⟩

/-- A fault that is handled, with the request in which it arose. -/
def fault (f : Fault) (request : Option Request) : Except Fault Event := do
  let fields ← faultFields f
  let context ← circumstances request
  let text ← f.text
  return eventOf f (fields ++ context) text

end Report

end Portcullis
