/-
# Names of algorithms

An algorithm is named by an object identifier, and its parameters follow.  The name tells what they
are: nothing, or what may be said as nothing, or a record, or one element of any form for a name
that is not known here.
-/
import Portcullis.Der.Form

namespace Portcullis.Der

/-- The name of an algorithm and the element that follows it, if one does. -/
structure Algorithm where
  id : Bytes
  parameters : Option Element

namespace Algorithm

open Form

/-! ## 1. Names -/

/-- The name of RSA. -/
def rsa : Bytes := idOf [1, 2, 840, 113549, 1, 1, 1]

/-- The name of RSA with the probabilistic padding. -/
def rsaPss : Bytes := idOf [1, 2, 840, 113549, 1, 1, 10]

/-- The name of keys on elliptic curves. -/
def curve : Bytes := idOf [1, 2, 840, 10045, 2, 1]

/-- The name of DSA. -/
def dsa : Bytes := idOf [1, 2, 840, 10040, 4, 1]

/-- The name of keys for agreement, which have the first two of their numbers as parameters. -/
def agreement : Bytes := idOf [1, 2, 840, 113549, 1, 3, 1]

/-- The name of keys for agreement with the order among their parameters. -/
def agreementWithOrder : Bytes := idOf [1, 2, 840, 10046, 2, 1]

/-- The name of keys for agreement on the curve of 255 bits. -/
def x25519 : Bytes := idOf [1, 3, 101, 110]

/-- The name of keys for agreement on the curve of 448 bits. -/
def x448 : Bytes := idOf [1, 3, 101, 111]

/-- The name of keys for signatures on the Edwards curve of 255 bits. -/
def ed25519 : Bytes := idOf [1, 3, 101, 112]

/-- The name of keys for signatures on the Edwards curve of 448 bits. -/
def ed448 : Bytes := idOf [1, 3, 101, 113]

/-- The name of the hash function that is usual where none is said. -/
def sha1 : Bytes := idOf [1, 3, 14, 3, 2, 26]

/-- The name of the mask function, which is usual too. -/
def mask : Bytes := idOf [1, 2, 840, 113549, 1, 1, 8]

/-- The name of the keyed digest that is usual where none is said. -/
def hmacSha1 : Bytes := idOf [1, 2, 840, 113549, 2, 7]

/-- The names without parameters. -/
def bare : List Bytes :=
  [x25519, x448, ed25519, ed448] ++
    [9, 10, 11, 12].map fun n => idOf [2, 16, 840, 1, 101, 3, 4, 3, n]

/-- The names whose parameters are nothing, said or not. -/
def plain : List Bytes :=
  [rsa, sha1, hmacSha1, idOf [1, 3, 14, 3, 2, 29], idOf [1, 2, 840, 10040, 4, 3]]
    ++ [1, 2, 3, 4, 7, 8, 9, 10].map (fun n => idOf [2, 16, 840, 1, 101, 3, 4, 2, n])
    ++ [1, 2, 3, 4, 13, 14, 15, 16].map (fun n => idOf [2, 16, 840, 1, 101, 3, 4, 3, n])
    ++ [1, 2, 3, 4].map (fun n => idOf [1, 2, 840, 10045, 4, 3, n])
    ++ [5, 11, 12, 13, 14].map (fun n => idOf [1, 2, 840, 113549, 1, 1, n])
    ++ [8, 9, 10, 11].map (fun n => idOf [1, 2, 840, 113549, 2, n])

/-- The names whose parameter is a block of so many octets. -/
def blocks : List (Bytes × Nat) :=
  [2, 22, 42].map (fun n => (idOf [2, 16, 840, 1, 101, 3, 4, 1, n], 16))
    ++ [(idOf [1, 2, 840, 113549, 3, 7], 8)]

/-! ## 2. Parameters -/

/-- The parameters of a key on a curve: a name, a whole curve, or nothing. -/
def curveParameters : Form Element where
  accepts tag := tag == 0x06 || tag == 0x30 || tag == 0x05
  value e :=
    if e.tag = 0x06 then (if isObjectId e.content then some e else none)
    else if e.tag = 0x05 then (if e.content.isEmpty then some e else none)
    else (elements e.content).map fun _ => e

/-- Whether an algorithm has a name and nothing for parameters, said so. -/
def isPlain (id : Bytes) (a : Algorithm) : Bool :=
  a.id == id && (a.parameters.map fun e => e.tag) == some 0x05

/-- The mask function and the hash function that it takes. -/
def maskRecord (inner : Form Algorithm) : Form Algorithm := record do
  let _ ← (octetsOf 0x06 (· == mask)).field
  inner.field

/-- The fields of a record that is left out where its usual value is meant. -/
def unusual {α : Type} (f : Form α) (usual : α → Bool) : Fields Unit := do
  match ← f.field? with
  | none => return
  | some a => if usual a then failure

/-- The records of parameters. -/
def records (inner : Form Algorithm) : List (Bytes × Fields Unit) := [
  (rsaPss, discard (record (do
    unusual (inner.within 0xA0) (isPlain sha1)
    unusual ((maskRecord inner).within 0xA1) (isPlain sha1)
    unusual ((naturalOf 16).within 0xA2) (· == 20)
    unusual ((naturalOf 8).within 0xA3) (· == 1))).field?),
  (curve, discard curveParameters.field),
  (dsa, discard (record (do
    let _ ← natural.field
    let _ ← natural.field
    discard natural.field)).field),
  (agreement, discard (record (do
    let _ ← natural.field
    let _ ← natural.field
    discard (naturalOf 32).field?)).field),
  (agreementWithOrder, discard (record (do
    let _ ← natural.field
    let _ ← natural.field
    let _ ← natural.field
    let _ ← natural.field?
    discard (ofTag 0x30 some).field?)).field),
  (idOf [1, 2, 840, 113549, 1, 5, 13], discard (record (do
    let _ ← inner.field
    discard inner.field)).field),
  (idOf [1, 2, 840, 113549, 1, 5, 12], discard (record (do
    let _ ← octets.field
    let _ ← (naturalOf 64).field
    let _ ← (naturalOf 64).field?
    unusual inner (isPlain hmacSha1))).field),
  (idOf [1, 3, 6, 1, 4, 1, 11591, 4, 11], discard (record (do
    let _ ← octets.field
    let _ ← (naturalOf 64).field
    let _ ← (naturalOf 64).field
    let _ ← (naturalOf 64).field
    discard (naturalOf 32).field?)).field)]

/-- The elements that may follow a name. -/
def parametersOf (inner : Form Algorithm) (id : Bytes) : Fields Unit :=
  if bare.contains id then return
  else if plain.contains id then discard null.field?
  else match blocks.lookup id with
    | some size => discard (octets.andThen fun b => guard (b.length = size)).field
    | none => match (records inner).lookup id with
      | some fields => fields
      | none => discard any.field?

/-! ## 3. The record -/

/-- An algorithm whose parameters name other algorithms, at most so deep. -/
def formWithin : Nat → Form Algorithm
  | 0 => record failure
  | depth + 1 => record do
    let id ← objectId.field
    let rest ← get
    parametersOf (formWithin depth) id
    return ⟨id, rest.head?⟩

/-- An algorithm with its parameters. -/
def form : Form Algorithm where
  accepts tag := tag == 0x30
  value e := (formWithin (e.content.length + 1)).value e

end Algorithm

end Portcullis.Der
