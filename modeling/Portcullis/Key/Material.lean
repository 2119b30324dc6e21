/-
# Keys in octets

A public half says its kind and holds the key of that kind as octets; so does a whole key.  Keys of
the kinds RSA and elliptic curve have a form without the kind, too.  In a text a key stands in an
armoured block whose label says which form it has.

A key that is not well-formed is a value fault; one of an unknown kind or curve is a fault of its
own.
-/
import Portcullis.Der.Algorithm
import Portcullis.Fault
import Portcullis.Key.CurveTable
import Portcullis.Key.Edwards
import Portcullis.Key.Pem
import Portcullis.Key.Rsa

namespace Portcullis

/-- A key of a kind that signs or checks signatures, or of some other kind. -/
inductive Key where
  | rsaPublic (key : Rsa.PublicKey)
  | rsaPrivate (key : Rsa.PrivateKey)
  | curvePublic (curve : Curve) (point : Curve.Point)
  | curvePrivate (curve : Curve) (secret : Nat)
  | edwardsPublic (curve : Edwards) (key : Bytes)
  | edwardsPrivate (curve : Edwards) (key : Bytes)
  | other

namespace Key

open Der Der.Form

/-- What is read, or the fault that a key is not well-formed. -/
def orFault {α : Type} : Option α → Except Fault.Kind α
  | some a => .ok a
  | none => .error .value

/-! ## 1. RSA -/

/-- The public half of an RSA key. -/
def rsaPublicForm : Form Rsa.PublicKey :=
  (record do return ⟨← natural.field, ← natural.field⟩).andThen fun k =>
    if k.isValid then some k else none

/-- A whole RSA key, after its version. -/
def rsaPrivateForm : Form Rsa.PrivateKey :=
  (record do
    let version ← (naturalOf 8).field
    if version ≠ 0 then failure
    let modulus ← natural.field
    let exponent ← natural.field
    return {
      modulus, exponent
      secret := ← natural.field
      first := ← natural.field
      second := ← natural.field
      firstSecret := ← natural.field
      secondSecret := ← natural.field
      inverse := ← natural.field }).andThen fun k => if k.isValid then some k else none

/-- The public half of an RSA key in octets. -/
def ofRsaPublicOctets (b : Bytes) : Except Fault.Kind Key :=
  orFault (rsaPublicForm.readOctets b |>.map .rsaPublic)

/-- A whole RSA key in octets. -/
def ofRsaPrivateOctets (b : Bytes) : Except Fault.Kind Key :=
  orFault (rsaPrivateForm.readOctets b |>.map .rsaPrivate)

/-! ## 2. Curves -/

/-- The seeds from which some curves were made. -/
def curveSeeds : List (Curve × Nat) := [
  (.p256, 0xC49D360886E704936A6678E1139D26B7819F7E90),
  (.p384, 0xA335926AA319A27A1D00896A6773A4827ACDAC73),
  (.p521, 0xD09E8800291CB85396CC6717393284AAA0DA64BA)]

/-- The name of prime fields. -/
def primeFieldId : Bytes := idOf [1, 2, 840, 10045, 1, 1]

/-- The field, the coefficients, the point and the order of a curve, by which it may be given in
place of its name. -/
structure Domain where
  fieldId : Bytes
  prime : Option Nat
  a : Bytes
  b : Bytes
  seed : Option Bytes
  base : Bytes
  order : Nat
  cofactor : Option Nat

/-- A curve that is given by its numbers. -/
def domainForm : Form Domain := record do
  let version ← (naturalOf 8).field
  if version ≠ 1 then failure
  let (fieldId, prime) ← (record do return (← objectId.field, ← any.field?)).field
  let (a, b, seed) ← (record do return (← octets.field, ← octets.field, ← bits.field?)).field
  return {
    fieldId
    prime := prime.bind natural.read
    a, b, seed
    base := ← octets.field
    order := ← natural.field
    cofactor := ← (naturalOf 8).field? }

/-- Whether numbers are those of a curve. -/
def Domain.isOf (d : Domain) (c : Curve) (seed : Nat) : Bool :=
  let n := c.fieldBytes
  d.fieldId == primeFieldId && d.prime == some c.prime && d.a == Bytes.ofNat n c.a
    && d.b == Bytes.ofNat n c.b && d.base == 0x04 :: Bytes.ofNat n c.baseX ++ Bytes.ofNat n c.baseY
    && d.order == c.order && d.cofactor == some 1
    && (d.seed.isNone || d.seed == some (Bytes.ofNat 20 seed))

/-- The curve that is given by its numbers, if it is known. -/
def Domain.curve? (d : Domain) : Option Curve :=
  (curveSeeds.find? fun (c, seed) => d.isOf c seed).map fun (c, _) => c

/-- The curve that parameters name, or give by its numbers. -/
def curveOf (e : Element) : Except Fault.Kind Curve := do
  let found ←
    if e.tag = 0x30 then Domain.curve? <$> orFault (domainForm.read e)
    else if e.tag = 0x06 then pure (Curve.ofObjectId? e.content)
    else pure none
  match found with
  | some c => return c
  | none => .error .unknownAlgorithm

/-- A whole key on a curve: its secret, and perhaps the curve and the public half. -/
structure CurveSecret where
  secret : Bytes
  curve : Option Element
  point : Option Bytes

/-- A whole key on a curve, after its version. -/
def curveSecretForm : Form CurveSecret := record do
  let version ← (naturalOf 8).field
  if version ≠ 1 then failure
  return ⟨← octets.field, ← (Algorithm.curveParameters.within 0xA0).field?,
    ← (bits.within 0xA1).field?⟩

/-- Whether a secret is below the order of a curve, and a public half, if given, belongs to it. -/
def CurveSecret.fits (s : CurveSecret) (c : Curve) : Bool :=
  let k := Bytes.toNat s.secret
  s.secret.length == Bytes.countFor c.order && 0 < k && k < c.order &&
    match s.point with
    | none => true
    | some b => match c.readPoint? b with
      | none => false
      | some p => c.isSame p (c.multiply k c.base)

/-- A whole key on a curve in octets.  The curve is in them or given before, and if both, the
same. -/
def ofCurveOctets (given : Option Element) (b : Bytes) : Except Fault.Kind Key := do
  let s ← orFault (curveSecretForm.readOctets b)
  let parameters ← match given, s.curve with
    | some e, some e' => if e.whole = e'.whole then pure e else .error .value
    | some e, none | none, some e => pure e
    | none, none => .error .value
  let c ← curveOf parameters
  if s.fits c then return .curvePrivate c (Bytes.toNat s.secret) else .error .value

/-! ## 3. Public halves -/

/-- The algorithm and the octets of a public half. -/
def publicForm : Form (Algorithm × Bytes) :=
  record do return (← Algorithm.form.field, ← bits.field)

/-- The kinds of keys that are plain octets, with the number of these. -/
def plainKinds : List (Bytes × Nat × Option Edwards) := [
  (Algorithm.ed25519, 32, some .ed25519), (Algorithm.ed448, 57, some .ed448),
  (Algorithm.x25519, 32, none), (Algorithm.x448, 56, none)]

/-- The kinds whose public half is a single number. -/
def numberKinds : List Bytes := [Algorithm.dsa, Algorithm.agreement, Algorithm.agreementWithOrder]

/-- A key of plain octets, made by a function if it is one for signatures. -/
def ofPlain (make : Edwards → Bytes → Key) (size : Nat) (curve : Option Edwards) (b : Bytes) :
    Except Fault.Kind Key :=
  if b.length ≠ size then .error .value
  else .ok (match curve with
    | some c => make c b
    | none => .other)

/-- A public half in octets. -/
def ofPublicOctets (b : Bytes) : Except Fault.Kind Key := do
  let (kind, content) ← orFault (publicForm.readOctets b)
  if kind.id = Algorithm.rsa ∨ kind.id = Algorithm.rsaPss then ofRsaPublicOctets content
  else if kind.id = Algorithm.curve then
    let c ← curveOf (← orFault kind.parameters)
    return .curvePublic c (← orFault (c.readPoint? content))
  else if numberKinds.contains kind.id then
    let _ ← orFault (natural.readOctets content)
    return .other
  else match plainKinds.lookup kind.id with
    | some (size, curve) => ofPlain .edwardsPublic size curve content
    | none => .error .unknownAlgorithm

/-! ## 4. Whole keys -/

/-- The algorithm and the octets of a whole key, after a version; attributes may follow. -/
def privateForm : Form (Algorithm × Bytes) := record do
  let version ← (naturalOf 8).field
  if version ≠ 0 then failure
  let kind ← Algorithm.form.field
  let content ← octets.field
  let _ ← ((setOf (record do
    let _ ← objectId.field
    (setOf any).field)).retag 0xA0).field?
  return (kind, content)

/-- A whole key in octets. -/
def ofPrivateOctets (b : Bytes) : Except Fault.Kind Key := do
  let (kind, content) ← orFault (privateForm.readOctets b)
  if kind.id = Algorithm.rsa ∨ kind.id = Algorithm.rsaPss then ofRsaPrivateOctets content
  else if kind.id = Algorithm.curve then ofCurveOctets kind.parameters content
  else if numberKinds.contains kind.id then
    let _ ← orFault (natural.readOctets content)
    return .other
  else match plainKinds.lookup kind.id with
    | some (size, curve) =>
      ofPlain .edwardsPrivate size curve (← orFault (octets.readOctets content))
    | none => .error .unknownAlgorithm

/-- A whole DSA key in octets, of which nothing is kept. -/
def ofDsaOctets (b : Bytes) : Except Fault.Kind Key :=
  orFault ((record do
    let version ← (naturalOf 8).field
    if version ≠ 0 then failure
    for _ in [0:5] do
      let _ ← natural.field
    return Key.other).readOctets b)

/-- A key under a password that is not known here. -/
def ofLockedOctets (b : Bytes) : Except Fault.Kind Key := do
  let _ ← orFault ((record do
    let _ ← Algorithm.form.field
    octets.field).readOctets b)
  .error .type

/-! ## 5. Armoured texts -/

/-- The public half in the first armoured block. -/
def ofPublicText (b : Bytes) : Except Fault.Kind Key := do
  let block ← orFault (Pem.first? b)
  if block.label = "PUBLIC KEY" then ofPublicOctets block.content
  else if block.label = "RSA PUBLIC KEY" then
    match ofRsaPublicOctets block.content with
    | .ok k => return k
    | .error kind => match ofPublicOctets block.content with
      | .ok (.rsaPublic k) => return .rsaPublic k
      | _ => .error kind
  else .error .value

/-- The forms of whole keys by the label of their block. -/
def privateReaders : List (Text × (Bytes → Except Fault.Kind Key)) := [
  ("PRIVATE KEY", ofPrivateOctets), ("ENCRYPTED PRIVATE KEY", ofLockedOctets),
  ("RSA PRIVATE KEY", ofRsaPrivateOctets), ("EC PRIVATE KEY", ofCurveOctets none),
  ("DSA PRIVATE KEY", ofDsaOctets)]

/-- Refuses a block whose headers say that its octets are under a password, or say it badly. -/
def checkHeaders (block : Pem.Block) : Except Fault.Kind Unit :=
  match block.header? "Proc-Type" with
  | none => .ok ()
  | some kind =>
    let hasCipher := ((block.header? "DEK-Info").getD []).contains (CodePoint.ofNat 0x2C)
    .error (if kind = "4,ENCRYPTED" ∧ hasCipher then .type else .value)

/-- The whole key in the first armoured block that holds one, if all blocks are well-formed. -/
def ofPrivateText (b : Bytes) : Except Fault.Kind Key := do
  let blocks ← orFault (Pem.blocks b)
  let (block, reader) ← orFault (blocks.findSome? fun block =>
    (privateReaders.lookup block.label).map fun reader => (block, reader))
  checkHeaders block
  reader block.content

end Key

end Portcullis
