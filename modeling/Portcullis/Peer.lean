/-
# The certificate of the peer

The transport, or a proxy in front of it, validates the certificate of a client; what is read here
is what they report.  The transport's report, when there is one, is the only one that counts; the
headers of a proxy are read only on demand, since a client could send them too.  A certificate that
is not well-formed is reported as unreadable; one that holds what is not provided ends the request.
-/
import Portcullis.Certificate.Names
import Portcullis.Fault
import Portcullis.Request
import Portcullis.Text.Blank

namespace Portcullis

/-- Whether the certificate is validated, its names, and otherwise what went wrong. -/
structure Peer where
  verified : Bool
  hosts : List Text
  error : Option Text
deriving DecidableEq

namespace Peer

/-- A peer whose certificate is validated. -/
def ofHosts (hosts : List Text) : Peer := ⟨true, hosts, none⟩

/-- A peer whose certificate is not validated. -/
def failed (error : Text) : Peer := ⟨false, [], some error⟩

/-! ## 1. Distinguished names -/

/-- The comma between the parts of a name. -/
def comma : CodePoint := CodePoint.ofNat 0x2C

/-- The value of a part that is a common name and has a value. -/
def commonNameOfPart? (part : Text) : Option Text :=
  match Text.cut (CodePoint.ofNat 0x3D) part.strip with
  | (name, some (c :: value)) =>
    if name.strip.upper = "CN" then some (Text.strip (c :: value)) else none
  | _ => none

/-- The value of the first common name in a distinguished name. -/
def commonName? (name : Text) : Option Text :=
  (Text.splitOn comma name).findSome? commonNameOfPart?

/-! ## 2. The transport -/

/-- The first item of a chain; a chain of another kind has none, and an object cannot be asked. -/
def firstOfChain (chain : Json) : Except Fault Json :=
  match chain with
  | .list (item :: _) => .ok item
  | .text (c :: _) => .ok (.text [c])
  | .object _ => .error (.ofKind .lookup)
  | _ => .ok .null

/-- The names in the text of a certificate, which is to be ASCII. -/
def hostsOfItem : Json → Except Fault.Kind (List Text)
  | .text t => if t.isAscii then Certificate.namesInText (Bytes.ofAscii t) else .error .value
  | _ => .error .type

/-- What a report shows in place of a certificate that cannot be read, with the message of the
reader. -/
def unreadable (fault : Fault) : Text := "unreadable client certificate: " ++ fault.message

/-- The name that stands in for the names of a certificate without any. -/
def standIn (name : Json) : Except Fault (List Text) :=
  match name with
  | .text t => match commonName? t with
    | some (c :: cn) => .ok [c :: cn]
    | _ => .ok []
  | v => if v.isTruthy then .error (.ofKind .operation) else .ok []

/-- What the transport reports. -/
def ofTransport (report : Members) : Except Fault (Option Peer) :=
  let chain := report.getD "client_cert_chain"
  let error := report.getD "client_cert_error"
  if !chain.isTruthy then .ok none
  else if error.isTruthy then .ok (some (failed error.display))
  else do
    match hostsOfItem (← firstOfChain chain) with
    | .error .value => return some (failed (unreadable (.ofKind .value)))
    | .error .type => return some (failed (unreadable (.ofKind .type)))
    | .error kind => .error (.ofKind kind)
    | .ok [] => return some (ofHosts (← standIn (report.getD "client_cert_name")))
    | .ok hosts => return some (ofHosts hosts)

/-! ## 3. The proxy -/

/-- The header in which a proxy says whether the certificate is validated. -/
def verifiedHeader : Text := "x-client-cert-verified"

/-- The header in which a proxy names the subject. -/
def subjectHeader : Text := "x-client-cert-subject"

/-- The header in which a proxy lists the alternative names. -/
def alternativesHeader : Text := "x-client-cert-san"

/-- The name in an entry of the list, which may say its kind before a colon. -/
def alternativeName (entry : Text) : Text :=
  match Text.cut (CodePoint.ofNat 0x3A) entry with
  | (_, some name) => name.strip
  | (name, none) => name.strip

/-- What the headers of a proxy report. -/
def ofProxy (r : Request) : Option Peer := do
  let status ← r.header? verifiedHeader
  if status.strip.upper ≠ "SUCCESS" then return failed status
  let common := match commonName? ((r.header? subjectHeader).getD []) with
    | some (c :: cn) => [c :: cn]
    | _ => []
  let entries := Text.splitOn comma ((r.header? alternativesHeader).getD [])
  let names := (entries.map alternativeName).filter (!·.isEmpty)
  return ofHosts (Certificate.distinct (common ++ names))

/-! ## 4. Both -/

/-- What is reported of the peer of a request, if anything is. -/
def ofRequest (trustProxy : Bool) (r : Request) : Except Fault (Option Peer) :=
  match r.tls with
  | .null => .ok (if trustProxy then ofProxy r else none)
  | .object report => ofTransport report
  | _ => .error (.ofKind .operation)

/-- Whether a list of allowed names is empty or has one of the names. -/
def isAllowed (hosts whitelist : List Text) : Bool :=
  whitelist.isEmpty || hosts.any whitelist.contains

end Peer

end Portcullis
