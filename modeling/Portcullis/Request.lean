/-
# Requests

What a request brings: its method and path, the query string and the headers as they were sent, the
octets of the body, what the transport says of the connection, and the address of the peer.
-/
import Portcullis.Json.Reader
import Portcullis.Principal
import Portcullis.Text.Casing

namespace Portcullis

/-- A request. -/
structure Request where
  method : Text
  path : Text
  /-- The query string, each octet as the code point of that number. -/
  query : Text
  /-- Names in small letters, in the order in which they were sent. -/
  headers : List (Text × Text)
  body : Bytes
  /-- What the transport says of the encrypted connection, `null` for nothing. -/
  tls : Json
  client : Option Text
  /-- The identity that was established before. -/
  identity : Identity

namespace Request

/-! ## 1. Headers -/

/-- The first header of a name in small letters. -/
def header? (r : Request) (name : Text) : Option Text := r.headers.lookup name

/-! ## 2. The query -/

/-- The octets of an ASCII text in which a percent sign and two hexadecimal digits stand for one;
other percent signs stand for themselves. -/
def unescape : Text → Bytes
  | [] => []
  | c :: h :: l :: more =>
    if c.val = 0x25 then
      match h.hexValue?, l.hexValue? with
      | some a, some b => UInt8.ofNat (a * 16 + b) :: unescape more
      | _, _ => UInt8.ofNat c.val :: unescape (h :: l :: more)
    else UInt8.ofNat c.val :: unescape (h :: l :: more)
  | c :: rest => UInt8.ofNat c.val :: unescape rest

/-- The maximal stretches of ASCII and of other code points. -/
def stretches : Text → List Text
  | [] => []
  | c :: rest =>
    match stretches rest with
    | (d :: run) :: runs =>
      if c.isAscii == d.isAscii then (c :: d :: run) :: runs else [c] :: (d :: run) :: runs
    | runs => [c] :: runs

/-- A name or value of the query: plus signs are blanks, and escapes in stretches of ASCII stand for
text in UTF-8. -/
def decodeQueryText (t : Text) : Text :=
  let spaced := t.map fun c => if c.val = 0x2B then CodePoint.ofNat 0x20 else c
  (stretches spaced).flatMap fun run =>
    if run.all CodePoint.isAscii then Utf8.decodeLossy (unescape run) else run

/-- The pairs of the query in their order; a name alone has an empty value. -/
def queryPairs (r : Request) : List (Text × Text) :=
  ((Text.splitOn (CodePoint.ofNat 0x26) r.query).filter (!·.isEmpty)).map fun piece =>
    let (name, value) := Text.cut (CodePoint.ofNat 0x3D) piece
    (decodeQueryText name, decodeQueryText (value.getD []))

/-- The query as members: of two values of one name the later one counts. -/
def queryMembers (r : Request) : Members :=
  Members.ofPairs (r.queryPairs.map fun (name, value) => (name, .text value))

/-! ## 3. The body -/

/-- The JSON value of the body, `null` when there is none that can be read. -/
def jsonBody (r : Request) : Json :=
  match Json.readBytes r.body with
  | .ok v => v
  | .error _ => .null

end Request

end Portcullis
