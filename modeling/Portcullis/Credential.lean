/-
# Credentials in requests

A bearer token stands in the first authorization header.  Other credentials are looked up by rules,
in order: each names a header, a member of the JSON body or a name in the query, and the first text
that is there and not empty counts.
-/
import Portcullis.Fault
import Portcullis.Request
import Portcullis.Text.Blank

namespace Portcullis

namespace Request

/-- The bearer token of a request, if the header has that scheme and a token. -/
def bearerToken? (r : Request) : Option Text := do
  let value ← r.header? "authorization"
  let (scheme, rest) := Text.cut (CodePoint.ofNat 0x20) value
  let token := (rest.getD []).strip
  if scheme.lower = "bearer" ∧ token ≠ [] then some token else none

end Request

/-! ## 1. Rules -/

/-- Where a credential may stand. -/
inductive CredentialSource where
  | header
  | body
  | query
deriving DecidableEq

/-- The source of a name. -/
def CredentialSource.ofName? (name : Text) : Option CredentialSource :=
  [(("header" : Text), header), ("body", body), ("query", query)].lookup name

/-- A source and a name in it. -/
structure LookupRule where
  source : CredentialSource
  name : Text
deriving DecidableEq

namespace LookupRule

/-- The text that counts as present: a list stands for its first item, and the empty text for
nothing. -/
def present? : Json → Option Text
  | .text (c :: t) => some (c :: t)
  | .list (.text (c :: t) :: _) => some (c :: t)
  | _ => none

/-- What one rule finds, with the body as it is known.  A header name is to be one that headers can
have. -/
def findWith (body : Json) (rule : LookupRule) (r : Request) : Except Fault (Option Text) :=
  match rule.source with
  | .header =>
    let name := rule.name.lower
    if name.all fun c => c.val < 0x100 then
      .ok ((r.header? name).bind fun t => present? (.text t))
    else .error (.ofKind .encoding)
  | .body => .ok ((body.members?.bind (Members.get? rule.name)).bind present?)
  | .query => .ok ((Members.get? rule.name r.queryMembers).bind present?)

/-- What one rule finds by itself. -/
def find (rule : LookupRule) (r : Request) : Except Fault (Option Text) :=
  rule.findWith r.jsonBody r

/-- The body as it is known to a rule: the first rule about the body reads it, and what was read is
kept for those that come after. -/
def readFor (rule : LookupRule) (r : Request) (kept : Option Json) : Option Json :=
  match rule.source with
  | .body => some (kept.getD r.jsonBody)
  | _ => kept

/-- What the first rule that finds something finds, with the body as it was kept. -/
def findFrom (kept : Option Json) (rules : List LookupRule) (r : Request) :
    Except Fault (Option Text) :=
  match rules with
  | [] => .ok none
  | rule :: rest => do
    let known := rule.readFor r kept
    match ← rule.findWith (known.getD .null) r with
    | some t => return some t
    | none => findFrom known rest r

/-- What the first rule that finds something finds.  Nothing of the body is read at first. -/
def findFirst (rules : List LookupRule) (r : Request) : Except Fault (Option Text) :=
  findFrom none rules r

/-- The rules for a credential in a header, a member of the body, or the query. -/
def everywhere (header field : Text) : List LookupRule :=
  [⟨.header, header⟩, ⟨.body, field⟩, ⟨.query, field⟩]

end LookupRule

/-! ## 2. Static tokens -/

/-- The one token that a static check accepts, in octets. -/
structure StaticSecret where
  octets : Bytes

namespace StaticSecret

/-- The failure when no secret is configured. -/
def undefined : Fault := .misconfigured "ENGINE_STATIC_TOKEN is not defined"

/-- The check for a secret, which is not to be empty. -/
def ofText (secret : Text) : Except Fault StaticSecret :=
  if secret.isEmpty then .error undefined
  else match secret.utf8? with
    | some b => .ok ⟨b⟩
    | none => .error (.ofKind .encoding)

/-- Whether a presented token is the secret. -/
def check (s : StaticSecret) (token : Text) : Except Fault Bool :=
  if token.isEmpty then .ok false
  else match token.utf8? with
    | some b => .ok (b == s.octets)
    | none => .error (.ofKind .encoding)

/-- What a report shows of the check. -/
def shown (_ : StaticSecret) : Text := "StaticTokenCheck(secret=***)"

end StaticSecret

end Portcullis
