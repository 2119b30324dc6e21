/-
# The three segments of a token

A token is three texts in base 64 between dots: a header, a payload and a signature.  The header is
a JSON object that names the algorithm; it may list extensions that a reader has to know, and of
those only the one that detaches the payload exists, which is refused here.
-/
import Portcullis.Bytes.Base64
import Portcullis.Fault
import Portcullis.Json.Reader

namespace Portcullis.Token

/-- The dot between segments. -/
def dot : CodePoint := CodePoint.ofNat 0x2E

/-- What the segments of a token hold; `signed` is what the signature is made for. -/
structure Segments where
  header : Members
  payload : Bytes
  signature : Bytes
  signed : Bytes

/-! ## 1. Cutting -/

/-- The text before the last dot and the text after it. -/
def cutLast (t : Text) : Option (Text × Text) :=
  match Text.cut dot t.reverse with
  | (last, some before) => some (before.reverse, last.reverse)
  | (_, none) => none

/-- The three segments: cut at the last dot, and what precedes it at the first. -/
def cutSegments (t : Text) : Option (Text × Text × Text) := do
  let (signed, signature) ← cutLast t
  match Text.cut dot signed with
  | (header, some payload) => some (header, payload, signature)
  | (_, none) => none

/-! ## 2. The header -/

/-- The object in a header segment. -/
def readHeader (segment : Text) : Except Flaw Members :=
  match Base64.decode Base64.urlSafe segment with
  | none => .error .headerDigits
  | some bytes => match Json.readBytes bytes with
    | .error _ => .error .headerText
    | .ok (.object header) => .ok header
    | .ok _ => .error .headerKind

/-- Whether a header says that the payload is detached. -/
def isDetached (header : Members) : Bool := header.get? "b64" == some (.bool false)

/-- Checks a list of critical extensions. -/
def checkCriticalItems (header : Members) : List Json → Except Flaw Unit
  | [] => .ok ()
  | .text name :: rest =>
    if name ≠ "b64" then .error (.criticalUnknown name)
    else if !header.has name then .error (.criticalAbsent name)
    else checkCriticalItems header rest
  | _ :: _ => .error .criticalItemKind

/-- Checks the key identifier. -/
def checkKeyId (header : Members) : Except Flaw Unit :=
  match header.get? "kid" with
  | none | some (.text _) => .ok ()
  | some _ => .error .keyIdKind

/-- Checks the list of critical extensions. -/
def checkCritical (header : Members) : Except Flaw Unit :=
  match header.get? "crit" with
  | none => .ok ()
  | some (.list (item :: items)) => checkCriticalItems header (item :: items)
  | some _ => .error .criticalKind

/-- Refuses a detached payload. -/
def checkDetached (header : Members) : Except Flaw Unit :=
  if isDetached header then
    match header.get? "crit" with
    | some (.list items) =>
      .error (if items.contains (.text "b64") then .detached else .detachedNotCritical)
    | _ => .error .detachedNotCritical
  else .ok ()

/-- Checks what a header says of itself. -/
def checkHeader (header : Members) : Except Flaw Unit := do
  checkKeyId header
  checkCritical header
  checkDetached header

/-! ## 3. All segments -/

/-- The octets in a payload segment. -/
def readPayload (header : Members) (segment : Text) : Except Flaw Bytes :=
  if isDetached header then
    if segment.isEmpty then .ok [] else .error .payloadNotDetached
  else match Base64.decode Base64.urlSafe segment with
    | none => .error .payloadDigits
    | some bytes => .ok bytes

/-- The octets in a signature segment. -/
def readSignature (segment : Text) : Except Flaw Bytes :=
  match Base64.decode Base64.urlSafe segment with
  | none => .error .signatureDigits
  | some bytes => .ok bytes

/-- The segments of a token. -/
def Segments.read (t : Text) : Except Flaw Segments :=
  match cutSegments t with
  | none => .error .tooFewSegments
  | some (headerPart, payloadPart, signaturePart) => do
    let header ← readHeader headerPart
    let payload ← readPayload header payloadPart
    let signature ← readSignature signaturePart
    checkHeader header
    return ⟨header, payload, signature, Bytes.ofAscii (headerPart ++ dot :: payloadPart)⟩

end Portcullis.Token
