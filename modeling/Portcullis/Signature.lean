/-
# Payload signatures

A payload is signed over a canonical form.  In the standard mode the payload is an object; its
`signature` member is left out, the members at every depth are sorted by name, and the compact JSON
text is signed with HMAC-SHA-256.  In the webhook mode the octets are signed as they came, with
HMAC-SHA-1, and the presented signature begins with `sha1=`.

**Main statement.**  Checking a signature never fails: whatever cannot be canonicalised has no
signature (`verify` is a boolean).
-/
import Portcullis.Bytes.Hex
import Portcullis.Digest.Hmac
import Portcullis.Json.Octets
import Portcullis.Json.Sorted
import Portcullis.Text.Casing
import Portcullis.Text.Utf8

namespace Portcullis

/-- The two ways to sign. -/
inductive SignatureMode where
  | standard
  | webhook
deriving DecidableEq

/-- What is signed: a JSON value, a text or octets. -/
inductive Payload where
  | json (v : Json)
  | text (t : Text)
  | octets (b : Bytes)

namespace Signature

/-- The name of the mode in reports. -/
def modeName : SignatureMode → Text
  | .standard => "standard"
  | .webhook => "github"

/-- The member of a payload that carries its signature. -/
def field : Text := "signature"

/-- The header of a webhook that carries its signature. -/
def webhookHeader : Text := "x-hub-signature"

/-- What the signature of a webhook begins with. -/
def webhookMark : Text := "sha1="

/-! ## 1. Canonical form -/

/-- The value with sorted members, if it nests within a depth. -/
def sortedTree (depth : Nat) (v : Json) : Except Fault Json :=
  if v.nestsWithin depth then .ok v.sorted else .error (.ofKind .recursion)

/-- How deep a value that is signed may nest.  Sorting takes two calls for each level of it, of the
thousand that may be under way at a time, and what it is called from takes some of them too. -/
def sortingDepth : Nat := 450

/-- The message of the fault of a payload that is no object. -/
def notAnObject : Text := "STANDARD signatures require a mapping payload"

/-- The octets that are signed. -/
def canonical (mode : SignatureMode) (payload : Payload) : Except Fault Bytes :=
  match mode, payload with
  | .webhook, .octets b => .ok b
  | .webhook, .text t => match t.utf8? with
    | some b => .ok b
    | none => .error (.ofKind .encoding)
  | .webhook, .json (.text t) => match t.utf8? with
    | some b => .ok b
    | none => .error (.ofKind .encoding)
  | .webhook, .json v => v.octets
  | .standard, .json (.object ms) => do
    Json.octets (← sortedTree sortingDepth (.object (Members.erase field ms)))
  | .standard, _ => .error (.plain .type notAnObject)

/-! ## 2. Signing -/

/-- The hash function of a mode. -/
def hashOf : SignatureMode → Hash
  | .standard => .sha256
  | .webhook => .sha1

/-- The signature of a payload, in hexadecimal digits. -/
def sign (mode : SignatureMode) (secret : Text) (payload : Payload) : Except Fault Text :=
  match secret.utf8? with
  | none => .error (.ofKind .encoding)
  | some key => do
    let message ← canonical mode payload
    return Bytes.hex ((hashOf mode).hmac key message)

/-- The object with its standard signature as a member. -/
def signObject (secret : Text) (ms : Members) : Except Fault Members := do
  let signature ← sign .standard secret (.json (.object ms))
  return Members.set field (.text signature) ms

/-- The signature of a webhook. -/
def signWebhook (secret : Text) (payload : Payload) : Except Fault Text := do
  return webhookMark ++ (← sign .webhook secret payload)

/-! ## 3. Checking -/

/-- The digits of a presented signature: in the webhook mode they stand behind the mark. -/
def presentedDigits (mode : SignatureMode) (signature : Text) : Option Text :=
  if signature.isEmpty then none
  else match mode with
    | .standard => some signature
    | .webhook => signature.dropStart? webhookMark

/-- Whether a presented value is the signature of a payload, in either letter case. -/
def verify (mode : SignatureMode) (secret : Text) (payload : Payload) (signature : Json) : Bool :=
  match signature with
  | .text t => match presentedDigits mode t with
    | none => false
    | some digits => match sign mode secret payload with
      | .ok expected => digits.lower == expected
      | .error _ => false
  | _ => false

end Signature

end Portcullis
