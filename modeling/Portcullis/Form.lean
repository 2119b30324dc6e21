/-
# Forms

What a client submits to the service itself: a JSON object in the body of a request, under a schema.
The content type of the request has to say that the body is JSON; any other body is plain text.
-/
import Portcullis.Json.Diagnosis
import Portcullis.Request
import Portcullis.Response
import Portcullis.Schema

namespace Portcullis

namespace Form

/-! ## 1. Content types -/

/-- The two parts of a media type, in small letters and without its parameters. -/
def mediaType? (t : Text) : Option (Text × Text) :=
  let kind := (Text.cut (CodePoint.ofNat 0x3B) t).1.strip.lower
  match Text.splitOn (CodePoint.ofNat 0x2F) kind with
  | [main, sub] => some (main, sub)
  | _ => none

/-- Whether a content type is one of JSON. -/
def isJsonType (t : Text) : Bool :=
  match mediaType? t with
  | some (main, sub) => main == "application" && (sub == "json" || sub.endsWith "+json")
  | none => false

/-! ## 2. Submissions -/

/-- Why a form is not accepted. -/
inductive Refusal where
  /-- Some of it does not hold. -/
  | invalid (problems : List Schema.Problem)
  /-- The body is not in the grammar of JSON. -/
  | notJson (diagnosis : Json.Diagnosis)
  /-- The body cannot be read at all. -/
  | unreadable

/-- What is wrong with a body that is not in the grammar. -/
def diagnosed (body : Bytes) : Refusal :=
  match (Encoding.decode body).bind Json.diagnose? with
  | some diagnosis => .notJson diagnosis
  | none => .unreadable

/-- The body of a request as a value; none when it is empty. -/
def bodyOf (r : Request) : Except Fault (Except Refusal (Option Json)) :=
  if r.body.isEmpty then .ok (.ok none)
  else if isJsonType ((r.header? "content-type").getD []) then
    match Json.readBytes r.body with
    | .ok v => .ok (.ok (some v))
    | .error .malformed => .ok (.error (diagnosed r.body))
    | .error _ => .ok (.error .unreadable)
  else match Utf8.decode? r.body with
    | some t => .ok (.ok (some (.text t)))
    | none => .error (.ofKind .decoding)

/-- Where the body of a request stands. -/
def place : Text := "body"

/-- The problem of a body that is missing. -/
def missing : Schema.Problem := ⟨[place], .missing, .null⟩

/-- The problem of a body that is no object. -/
def noObject (v : Json) : Schema.Problem :=
  ⟨[place], ⟨"model_attributes_type",
    "Input should be a valid dictionary or object to extract fields from", []⟩, v⟩

/-- The problem of a field, placed in the body. -/
def inBody (p : Schema.Problem) : Schema.Problem := { p with place := place :: p.place }

/-- The fields of a value under a schema. -/
def readValue (schema : Schema) : Option Json → Except Refusal Members
  | none => .error (.invalid [missing])
  | some (.object ms) => match schema.read ms with
    | .ok fields => .ok fields
    | .error problems => .error (.invalid (problems.map inBody))
  | some v => .error (.invalid [noObject v])

/-- The fields that a request submits under a schema. -/
def read (schema : Schema) (r : Request) : Except Fault (Except Refusal Members) := do
  match ← bodyOf r with
  | .error refusal => return .error refusal
  | .ok v => return readValue schema v

/-! ## 3. Answers -/

/-- What a client is told of a body that is not JSON. -/
def notJsonDetail (d : Json.Diagnosis) : Json := .object [
  ("type", .text "json_invalid"), ("loc", .list [.text place, .int d.position]),
  ("msg", .text "JSON decode error"), ("input", .object []),
  ("ctx", .object [("error", .text d.message)])]

/-- The response to a form that is not accepted. -/
def Refusal.response : Refusal → Except Fault Response
  | invalid problems =>
    Response.ofBody 422 [] (Response.detailBody (.list (problems.map Schema.Problem.detail)))
  | notJson diagnosis =>
    Response.ofBody 422 [] (Response.detailBody (.list [notJsonDetail diagnosis]))
  | unreadable => .ok (.ofDetail 400 "There was an error parsing the body")

end Form

end Portcullis
