/-
# Keys in lines

A line names the kind of a public half and holds its octets in base 64; a comment may follow.  The
octets are fields behind their lengths, the first of which names the kind again.  A certificate of
such a key adds fields that bind it to names and a time; they are read, but not relied on.
-/
import Portcullis.Key.Material

namespace Portcullis.Key.Line

/-! ## 1. Fields -/

/-- The reading of what stands first in a sequence of octets. -/
abbrev Reader (α : Type) := StateT Bytes (Except Fault.Kind) α

/-- So many octets. -/
def take (n : Nat) : Reader Bytes := fun b =>
  if n ≤ b.length then .ok (b.take n, b.drop n) else .error .value

/-- A number in so many octets. -/
def number (n : Nat) : Reader Nat := Bytes.toNat <$> take n

/-- A field behind its length. -/
def field : Reader Bytes := do take (← number 4)

/-- A number of any length that is not negative. -/
def natural : Reader Nat := do
  let b ← field
  if 0x80 ≤ (b.headD 0).toNat then throw .value
  return Bytes.toNat b

/-- What a reader reads that leaves nothing over. -/
def Reader.all {α : Type} (r : Reader α) (b : Bytes) : Except Fault.Kind α := do
  match ← r b with
  | (a, []) => return a
  | _ => .error .value

/-- What a reader reads over and over until nothing is left, at most so many times. -/
def many {α : Type} (r : Reader α) : Nat → Bytes → Except Fault.Kind (List α)
  | _, [] => .ok []
  | 0, _ => .error .value
  | n + 1, b => do
    let (a, rest) ← r b
    return a :: (← many r n rest)

/-! ## 2. Kinds -/

/-- The curves of the elliptic kinds, by the name in the line. -/
def curves : List (Text × Curve) := [("nistp256", .p256), ("nistp384", .p384), ("nistp521", .p521)]

/-- An RSA key. -/
def rsaFields : Reader Key := do
  let exponent ← natural
  let k : Rsa.PublicKey := ⟨← natural, exponent⟩
  if k.isValid then return .rsaPublic k else throw .value

/-- A DSA key, of which nothing is kept. -/
def dsaFields : Reader Key := do
  let p ← natural
  let q ← natural
  let g ← natural
  let _ ← natural
  if p.log2 = 1023 ∧ [159, 223, 255].contains q.log2 ∧ 1 < g ∧ g < p then return .other
  else throw .value

/-- An Edwards key. -/
def edwardsFields : Reader Key := do ofPlain .edwardsPublic 32 (some .ed25519) (← field)

/-- A key on a curve, whose name comes first; only points with both coordinates are provided. -/
def curveFields (name : Text) (c : Curve) : Reader Key := do
  let found ← field
  let point ← field
  if found ≠ Bytes.ofAscii name then throw .value
  match point.head? with
  | none => throw .index
  | some tag => if tag ≠ 0x04 then throw .unsupported
  return .curvePublic c (← orFault (c.readPoint? point))

/-- The fields of each kind of key, by its name. -/
def kinds : List (Text × Reader Key) :=
  ("ssh-rsa", rsaFields) :: ("ssh-dss", dsaFields) :: ("ssh-ed25519", edwardsFields)
    :: curves.map fun (name, c) => (("ecdsa-sha2-" : Text) ++ name, curveFields name c)

/-! ## 3. Certificates -/

/-- What follows the name of a kind in that of its certificates. -/
def certificateEnding : Text := "-cert-v01@openssh.com"

/-- Whether each of the names is below the next. -/
def isRising : List Bytes → Bool
  | a :: b :: rest => a.le b && a != b && isRising (b :: rest)
  | _ => true

/-- The names and values of options: the names rise, and a value is empty or a field. -/
def checkOptions (b : Bytes) : Except Fault.Kind Unit := do
  let names ← many (do
    let name ← field
    let value ← field
    if !value.isEmpty then
      let _ ← field.all value
    return name) b.length b
  if isRising names then return () else .error .value

/-- Whether a signature of a kind is made by a key of a kind. -/
def signatureFits (key signature : Text) : Bool :=
  if key = "ssh-rsa" then
    [("rsa-sha2-256" : Text), "rsa-sha2-512", "ssh-rsa"].contains signature
  else signature == key

/-- The fields of a certificate after those of its key. -/
def certificateFields : Reader Unit := do
  let _ ← number 8
  let kind ← number 4
  let _ ← field
  let names ← field
  let _ ← many field names.length names
  let _ ← number 8
  let _ ← number 8
  checkOptions (← field)
  checkOptions (← field)
  let _ ← field
  let (signer, _) ← field (← field)
  let signature ← field
  let (signatureKind, rest) ← field signature
  if !signatureFits (Bytes.toLatin1 signer) (Bytes.toLatin1 signatureKind) then throw .value
  let _ ← field.all rest
  if kind ≠ 1 ∧ kind ≠ 2 then throw .value

/-! ## 4. Lines -/

/-- The octets that separate the parts of a line. -/
def isBlank (x : UInt8) : Bool := x == 0x20 || (0x09 ≤ x && x ≤ 0x0D)

/-- The first two parts of a line, which spaces or tabs separate. -/
def cut? (line : Bytes) : Option (Bytes × Bytes) := do
  let (kind, rest) := line.span (!isBlank ·)
  let gap := rest.takeWhile fun x => x == 0x20 || x == 0x09
  let body := (rest.drop gap.length).takeWhile (!isBlank ·)
  guard (!kind.isEmpty && !gap.isEmpty && !body.isEmpty)
  return (kind, body)

/-- The fields of a key of a named kind, or of a certificate of one. -/
def fieldsOf (name : Text) : Option (Reader Key) :=
  if name.endsWith certificateEnding then do
    let fields ← kinds.lookup (name.take (name.length - certificateEnding.length))
    return do
      let _ ← field
      let key ← fields
      certificateFields
      return key
  else kinds.lookup name

/-- The public half in a line. -/
def read (line : Bytes) : Except Fault.Kind Key := do
  let (kind, body) ← orFault (cut? line)
  match fieldsOf (Bytes.toLatin1 kind) with
  | none => .error .unknownAlgorithm
  | some fields =>
    let content ← orFault (Base64.decodeLenient Base64.standard (Bytes.toLatin1 body))
    Reader.all (do
      if (← field) ≠ kind then throw .value
      fields) content

end Portcullis.Key.Line
