/-
# Signature algorithms

What signs a token and what checks its signature.  An algorithm takes the text of a key and refuses
texts that do not fit: a shared secret must not be the text of a public key, since everyone knows
that one.  Signatures that need fresh randomness are checked here but not made.
-/
import Portcullis.Fault
import Portcullis.Json.Reader
import Portcullis.Key.Line

namespace Portcullis.Token

/-! ## 1. Algorithms -/

/-- The ways to sign. -/
inductive Algorithm where
  | unsigned
  | hmac (hash : Hash)
  | rsa (hash : Hash)
  | rsaPss (hash : Hash)
  | curve (curve : Curve) (hash : Hash)
  | edwards

/-- The names of the algorithms, as headers spell them. -/
def Algorithm.names : List (Text × Algorithm) := [
  ("none", .unsigned),
  ("HS256", .hmac .sha256), ("HS384", .hmac .sha384), ("HS512", .hmac .sha512),
  ("RS256", .rsa .sha256), ("RS384", .rsa .sha384), ("RS512", .rsa .sha512),
  ("PS256", .rsaPss .sha256), ("PS384", .rsaPss .sha384), ("PS512", .rsaPss .sha512),
  ("ES256", .curve .p256 .sha256), ("ES256K", .curve .k256 .sha256),
  ("ES384", .curve .p384 .sha384), ("ES512", .curve .p521 .sha512),
  ("ES521", .curve .p521 .sha512), ("EdDSA", .edwards)]

/-- The algorithm of a name. -/
def Algorithm.ofName? (name : Text) : Option Algorithm := Algorithm.names.lookup name

/-! ## 2. Shared secrets -/

/-- The labels of armoured blocks that hold keys and certificates. -/
def keyLabels : List Text := [
  "CERTIFICATE", "TRUSTED CERTIFICATE", "PRIVATE KEY", "PUBLIC KEY", "ENCRYPTED PRIVATE KEY",
  "OPENSSH PRIVATE KEY", "DSA PRIVATE KEY", "RSA PRIVATE KEY", "RSA PUBLIC KEY", "EC PRIVATE KEY",
  "DH PARAMETERS", "NEW CERTIFICATE REQUEST", "CERTIFICATE REQUEST", "SSH2 PUBLIC KEY",
  "SSH2 ENCRYPTED PRIVATE KEY", "X509 CRL"]

/-- The first words of public keys in one line. -/
def lineKinds : List Text := [
  "ssh-ed25519", "ssh-rsa", "ssh-dss", "ecdsa-sha2-nistp256", "ecdsa-sha2-nistp384",
  "ecdsa-sha2-nistp521"]

/-- What follows a mark of four dashes, a dash or blank, a word, and the same mirrored. -/
def dropMark? (word label t : Text) : Option Text := do
  let t ← t.dropStart? "----"
  let t ← (t.dropStart? "-") <|> (t.dropStart? " ")
  let t ← t.dropStart? (word ++ " " ++ label)
  let t ← (t.dropStart? "-") <|> (t.dropStart? " ")
  t.dropStart? "----"

/-- Whether a mark that ends a block of a label is anywhere in a text. -/
def hasEnding (label : Text) : Text → Bool
  | [] => false
  | c :: rest => (dropMark? "END" label (c :: rest)).isSome || hasEnding label rest

/-- Whether a text begins with a whole block of a label, which is not empty. -/
def startsBlock (label t : Text) : Bool :=
  match dropMark? "BEGIN" label t with
  | some (_ :: body) => hasEnding label body
  | _ => false

/-- Whether a whole block of a known label is anywhere in a text. -/
def holdsBlock : Text → Bool
  | [] => false
  | c :: rest => keyLabels.any (startsBlock · (c :: rest)) || holdsBlock rest

mutual

/-- Whether an object with a member `kty` is anywhere in a value. -/
def holdsKeyObject : Json → Bool
  | .list items => holdsKeyObjectItems items
  | .object ms => Members.has "kty" ms || holdsKeyObjectMembers ms
  | _ => false

/-- The same among the items of a list. -/
def holdsKeyObjectItems : List Json → Bool
  | [] => false
  | v :: rest => holdsKeyObject v || holdsKeyObjectItems rest

/-- The same among the members of an object. -/
def holdsKeyObjectMembers : Members → Bool
  | [] => false
  | (_, v) :: rest => holdsKeyObject v || holdsKeyObjectMembers rest

end

/-- Whether a member `kty` seems to be anywhere in the octets of a text. -/
def namesKeyKind : Bytes → Bool
  | [] => false
  | x :: rest =>
    (match (Bytes.ofAscii "\"kty\"").isPrefixOf? (x :: rest) with
      | some after => (after.dropWhile Key.Line.isBlank).head? == some 0x3A
      | none => false)
    || namesKeyKind rest

/-- Whether the octets of a secret are the JSON form of a key; those of a text that nests too deep
count as one if they seem to name its kind. -/
def isStructuredKey (secret : Bytes) : Bool :=
  match Json.readBytes secret with
  | .ok v => holdsKeyObject v
  | .error .tooDeep => namesKeyKind secret
  | .error _ => false

/-- Whether a secret is the text or the octets of a public key, or the text of a whole one. -/
def isAsymmetricKey (secret : Text) (octets : Bytes) : Bool :=
  holdsBlock secret || lineKinds.any (secret.startsWith ·) ||
    (Key.ofPublicOctets octets).isOk || (Key.ofRsaPublicOctets octets).isOk

/-- The octets of a shared secret that may be used as one. -/
def secretBytes (secret : Text) : Except Fault Bytes :=
  match secret.utf8? with
  | none => .error (.ofKind .encoding)
  | some bytes =>
    if secret.isEmpty then .error (.key .emptySecret)
    else if isAsymmetricKey secret bytes then .error (.key .asymmetricSecret)
    else if isStructuredKey bytes then .error (.key .structuredSecret)
    else .ok bytes

/-! ## 3. Keys in text -/

/-- What a reader of octets reads in the octets of a text. -/
def readKey (read : Bytes → Except Fault.Kind Key) (text : Text) : Except Fault.Kind Key :=
  match text.utf8? with
  | none => .error .encoding
  | some b => read b

/-- An RSA key, whole or public. -/
def rsaKey (text : Text) : Except Fault Key :=
  let isRsa (k : Key) : Except Fault Key :=
    match k with
    | .rsaPublic _ | .rsaPrivate _ => .ok k
    | _ => .error (.key .wrongKind)
  match readKey (if text.startsWith "ssh-rsa" then Key.Line.read else Key.ofPrivateText) text with
  | .ok k => isRsa k
  | .error .value => match readKey Key.ofPublicText text with
    | .ok k => isRsa k
    | .error .value | .error .unknownAlgorithm => .error (.key .unreadable)
    | .error kind => .error (.ofKind kind)
  | .error kind => .error (.ofKind kind)

/-- The point that a key on a curve has for its public half. -/
def pointOf (curve : Curve) (k : Key) : Except Fault Curve.Point :=
  let onCurve (c : Curve) (p : Curve.Point) : Except Fault Curve.Point :=
    if c.name = curve.name then .ok p else .error (.key (.wrongCurve c.name curve.name))
  match k with
  | .curvePublic c p => onCurve c p
  | .curvePrivate c secret => onCurve c (c.multiply secret c.base)
  | _ => .error (.key .wrongKind)

/-- A point of a curve; a whole key stands for its public half. -/
def curvePoint (curve : Curve) (text : Text) : Except Fault Curve.Point :=
  let reader := if text.startsWith "ecdsa-sha2-" then Key.Line.read else Key.ofPublicText
  match readKey reader text with
  | .ok k => pointOf curve k
  | .error .value => match readKey Key.ofPrivateText text with
    | .ok k => pointOf curve k
    | .error kind => .error (.ofKind kind)
  | .error kind => .error (.ofKind kind)

/-- An Edwards key, whole or public; the text says which before it is read. -/
def edwardsKey (text : Text) : Except Fault Key :=
  let reader :=
    if (Pem.cutAt ("-----BEGIN PUBLIC" : Text) text).isSome then some Key.ofPublicText
    else if (Pem.cutAt ("-----BEGIN PRIVATE" : Text) text).isSome then some Key.ofPrivateText
    else if text.startsWith "ssh-" then some Key.Line.read
    else none
  match text.utf8?, reader with
  | none, _ => .error (.ofKind .encoding)
  | some _, none => .error (.key .wrongKind)
  | some b, some read => match read b with
    | .ok k => .ok k
    | .error kind => .error (.ofKind kind)

/-- No key, which is the empty text. -/
def noKey (text : Text) : Except Fault Unit :=
  if text.isEmpty then .ok () else .error (.key .unexpected)

namespace Algorithm

/-! ## 4. Signing and checking -/

/-- Whether a signature is a key's for a message. -/
def verify (a : Algorithm) (key : Text) (message signature : Bytes) : Except Fault Bool :=
  match a with
  | .unsigned => do
    noKey key
    return false
  | .hmac h => do
    let secret ← secretBytes key
    return h.hmac secret message == signature
  | .rsa h => do
    match ← rsaKey key with
    | .rsaPublic k => return Rsa.verify h k message signature
    | _ => .error (.ofKind .operation)
  | .rsaPss h => do
    match ← rsaKey key with
    | .rsaPublic k => return Rsa.verifyPss h k message signature
    | _ => .error (.ofKind .operation)
  | .curve c h => do
    return c.verify h (← curvePoint c key) message signature
  | .edwards => do
    match ← edwardsKey key with
    | .edwardsPublic c k => return c.verify k message signature
    | .edwardsPrivate c k => return c.verify (c.publicOf k) message signature
    | _ => .error (.key .wrongKind)

/-- The signature of a message under a key. -/
def sign (a : Algorithm) (key : Text) (message : Bytes) : Except Fault Bytes :=
  match a with
  | .unsigned => do
    noKey key
    return []
  | .hmac h => do
    let secret ← secretBytes key
    return h.hmac secret message
  | .rsa h => do
    match ← rsaKey key with
    | .rsaPrivate k => match Rsa.sign h k message with
      | some s => return s
      | none => .error (.ofKind .value)
    | _ => .error (.ofKind .operation)
  | .rsaPss _ => do
    match ← rsaKey key with
    | .rsaPrivate _ => .error (.ofKind .unsupported)
    | _ => .error (.ofKind .operation)
  | .curve c _ => do
    let _ ← curvePoint c key
    .error (.ofKind .unsupported)
  | .edwards => do
    match ← edwardsKey key with
    | .edwardsPrivate c k => return c.sign k message
    | .edwardsPublic _ _ => .error (.ofKind .operation)
    | _ => .error (.key .wrongKind)

end Algorithm

end Portcullis.Token
