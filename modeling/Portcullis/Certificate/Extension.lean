/-
# Extensions of a certificate

An extension has a name and holds octets.  What the octets are follows from the name; those of an
unknown name are not looked at.  A known extension is well-formed, and then what it says has to make
sense: a path length belongs to an authority, constraints constrain something, and so on.
-/
import Portcullis.Certificate.GeneralName

namespace Portcullis.Certificate

open Der Der.Form

/-! ## 1. As they stand -/

/-- The name of an extension and its octets. -/
structure Extension where
  id : Bytes
  content : Bytes

/-- An extension, which may be said to be critical. -/
def extensionForm : Form Extension := record do
  let id ← objectId.field
  let _ ← boolean.fieldOr false
  return ⟨id, ← octets.field⟩

/-- What the octets of an extension have to be: of a form, with a value that makes sense. -/
abbrev Rule := Form (Except Fault.Kind Unit)

/-- The outcome for the octets of an extension. -/
def Rule.check (r : Rule) (b : Bytes) : Except Fault.Kind Unit :=
  match r.readOctets b with
  | some outcome => outcome
  | none => .error .value

/-- A form of which every value makes sense. -/
def whole {α : Type} (f : Form α) : Rule := f.map fun _ => .ok ()

/-- A form of which the values that pass a test make sense. -/
def holds {α : Type} (f : Form α) (test : α → Bool) : Rule :=
  f.map fun a => if test a then .ok () else .error .value

/-! ## 2. Names -/

/-- The outcome for a list of names. -/
def checkNames (names : List GeneralName) : Except Fault.Kind Unit := do
  let _ ← names.mapM GeneralName.read

/-- A list of alternative names. -/
def generalNames : Form (List GeneralName) := listOf generalName

/-- Ways to reach something, each with the name of the place. -/
def accessRule : Rule :=
  (listOf (record do
    let _ ← objectId.field
    generalName.field)).map checkNames

/-- The issuer's key: an identifier, and a name and a number that come together. -/
def authorityKeyRule : Rule :=
  (record do
    let _ ← (octets.retag 0x80).field?
    return (← (generalNames.retag 0xA1).field?, ← (natural.retag 0x82).field?)).map
  fun (names, number) => do
    checkNames (names.getD [])
    if names.isSome = number.isSome then return () else throw .value

/-- Where a list of revoked certificates is: a full name, or the attributes that complete one. -/
inductive Place where
  | full (names : List GeneralName)
  | relative (set : List Attribute)

/-- The place of a list. -/
def placeForm : Form Place := choice [
  (generalNames.retag 0xA0).map Place.full, (attributesForm.retag 0xA1).map Place.relative]

/-- Whether a place says anything, if its names make sense. -/
def Place.check : Place → Except Fault.Kind Bool
  | full names => do
    checkNames names
    return !names.isEmpty
  | relative set => do
    let _ ← readSet set
    return true

/-- The places of lists of revoked certificates; each says a place or an issuer. -/
def placesRule : Rule :=
  (listOf (record do
    let place ← (placeForm.within 0xA0).field?
    let _ ← (bits.retag 0x81).field?
    return (place, ← (generalNames.retag 0xA2).field?))).map fun entries =>
  entries.forM fun (place, issuer) => do
    let isSaid ← (place.map Place.check).getD (.ok false)
    checkNames (issuer.getD [])
    if isSaid || !(issuer.getD []).isEmpty then return () else throw .value

/-- The outcome for the values that constraints are made of: at least one, networks in place of
addresses, and no host with an asterisk. -/
def checkConstraints (values : List GeneralName.Value) : Except Fault.Kind Unit :=
  let isAddress | .address _ => true | _ => false
  let isPattern | .host t => t.contains (CodePoint.ofNat 0x2A) | _ => false
  if values.isEmpty then .error .value
  else if values.any isAddress then .error .type
  else if values.any isPattern then .error .value
  else .ok ()

/-- The names that certificates below this one may have and may not have. -/
def constraintsRule : Rule :=
  let names := listOf (record do
    let name ← generalName.field
    let _ ← ((naturalOf 64).retag 0x80).fieldOr 0
    let _ ← ((naturalOf 64).retag 0x81).field?
    return name)
  (record do
    return (← (names.retag 0xA0).field?, ← (names.retag 0xA1).field?)).map
  fun (permitted, excluded) => do
    let permitted ← permitted.mapM fun list => list.mapM GeneralName.read
    let excluded ← excluded.mapM fun list => list.mapM GeneralName.read
    if let some values := permitted then checkConstraints values
    if let some values := excluded then checkConstraints values
    if permitted.isNone && excluded.isNone then throw .value

/-! ## 3. Usage and policies -/

/-- Whether a bit is set in a sequence of bits. -/
def hasBit (b : Bytes) (i : Nat) : Bool := (b.getD (i / 8) 0).toNat.testBit (7 - i % 8)

/-- What the key is used for: one direction only makes sense for the agreement on keys. -/
def usageRule : Rule := holds bits fun b => hasBit b 4 || (!hasBit b 7 && !hasBit b 8)

/-- Whether the certificate is an authority's, which alone has a path length. -/
def authorityRule : Rule :=
  holds (record do return (← boolean.fieldOr false, ← (naturalOf 64).field?))
    fun (isAuthority, length) => isAuthority || length.isNone

/-- Two bounds, of which at least one is given. -/
def boundsRule {α : Type} (f : Form α) (test : α → α → Bool) : Rule :=
  holds (record do return (← (f.retag 0x80).field?, ← (f.retag 0x81).field?)) fun
    | (some a, some b) => test a b
    | (none, none) => false
    | _ => true

/-- The features that a server has to offer, of which two are known. -/
def featuresRule : Rule := (listOf (naturalOf 64)).map fun features =>
  if features.any fun n => n ≠ 5 ∧ n ≠ 17 then .error .lookup
  else if features.isEmpty then .error .type
  else .ok ()

/-- A text for readers. -/
def displayText : Form Text := choice [asciiText, utf8Text, visibleText, text16]

/-- A notice: a reference to an organisation's statements, and a text. -/
def notice : Form Unit := record do
  let _ ← (record do
    let _ ← displayText.field
    (listOf natural).field).field?
  let _ ← displayText.field?

/-- The name of a qualifier that is a place. -/
def placeId : Bytes := idOf [1, 3, 6, 1, 5, 5, 7, 2, 1]

/-- The name of a qualifier that is a notice. -/
def noticeId : Bytes := idOf [1, 3, 6, 1, 5, 5, 7, 2, 2]

/-- Policies with qualifiers, whose kind is the one that they are said to be of. -/
def policiesRule : Rule :=
  let qualifier := record do
    let said ← objectId.field
    return (said, ← (choice [asciiText.map fun _ => placeId, notice.map fun _ => noticeId]).field)
  holds (listOf (record do
    let _ ← objectId.field
    (listOf qualifier).field?)) fun policies =>
      policies.all fun qualifiers => (qualifiers.getD []).all fun (said, found) => said == found

/-- The template of a certificate, with its version. -/
def templateRule : Rule := whole (record do
  let _ ← objectId.field
  let _ ← (naturalOf 32).field?
  (naturalOf 32).field?)

/-! ## 4. Professions and logs -/

/-- A body that names professions. -/
def namingForm : Form Unit := record do
  let _ ← objectId.field?
  let _ ← asciiText.field?
  let _ ← displayText.field?

/-- Professions, each with an identifier if any has. -/
def professionForm : Form Bool := record do
  let _ ← (namingForm.within 0xA0).field?
  let items ← (listOf displayText).field
  let ids ← (listOf objectId).field?
  let _ ← printableText.field?
  let _ ← octets.field?
  return (ids.map List.length).getD items.length == items.length

/-- Admissions to professions, by authorities with a name. -/
def admissionsRule : Rule :=
  (record do
    let authority ← generalName.field?
    let admissions ← (listOf (record do
      let authority ← (generalName.within 0xA0).field?
      let _ ← (namingForm.within 0xA1).field?
      return (authority, ← (listOf professionForm).field))).field
    return (authority, admissions)).map fun (authority, admissions) => do
  checkNames authority.toList
  admissions.forM fun (authority, professions) => do
    checkNames authority.toList
    if professions.all id then return () else throw .value

/-- The octets behind a length of two octets, and the rest. -/
def readPrefixed (b : Bytes) : Option (Bytes × Bytes) := do
  let n := Bytes.toNat (b.take 2)
  guard (2 ≤ b.length && n + 2 ≤ b.length)
  return ((b.drop 2).take n, b.drop (n + 2))

/-- Whether octets are a log's promise: a version, a log, a time, extensions, and a signature by
known algorithms. -/
def isPromise (b : Bytes) : Bool :=
  match readPrefixed (b.drop 41) with
  | some (_, hash :: signer :: signature) =>
    b.head? == some 0 && 1 ≤ hash && hash ≤ 6 && 1 ≤ signer && signer ≤ 3
      && (readPrefixed signature).isSome
  | _ => false

/-- Promises of logs to list the certificate. -/
def promisesRule : Rule := holds octets fun b =>
  match readPrefixed b with
  | none => false
  | some (list, _) => match Bytes.readAll readPrefixed list with
    | none => false
    | some promises => promises.all isPromise

/-! ## 5. All extensions -/

/-- The name of the extension for alternative names of the subject. -/
def alternativeNamesId : Bytes := idOf [2, 5, 29, 17]

/-- The known extensions. -/
def rules : List (Bytes × Rule) := [
  (alternativeNamesId, generalNames.map checkNames),
  (idOf [2, 5, 29, 18], generalNames.map checkNames),
  (idOf [2, 5, 29, 14], whole octets),
  (idOf [2, 5, 29, 15], usageRule),
  (idOf [2, 5, 29, 16], boundsRule longTime Bytes.le),
  (idOf [2, 5, 29, 19], authorityRule),
  (idOf [2, 5, 29, 30], constraintsRule),
  (idOf [2, 5, 29, 31], placesRule),
  (idOf [2, 5, 29, 32], policiesRule),
  (idOf [2, 5, 29, 35], authorityKeyRule),
  (idOf [2, 5, 29, 36], boundsRule (naturalOf 64) fun _ _ => true),
  (idOf [2, 5, 29, 37], whole (listOf objectId)),
  (idOf [2, 5, 29, 46], placesRule),
  (idOf [2, 5, 29, 54], whole natural),
  (idOf [1, 3, 6, 1, 5, 5, 7, 1, 1], accessRule),
  (idOf [1, 3, 6, 1, 5, 5, 7, 1, 11], accessRule),
  (idOf [1, 3, 6, 1, 5, 5, 7, 1, 24], featuresRule),
  (idOf [1, 3, 6, 1, 5, 5, 7, 48, 1, 5], whole null),
  (idOf [1, 3, 6, 1, 4, 1, 311, 21, 7], templateRule),
  (idOf [1, 3, 6, 1, 4, 1, 11129, 2, 4, 2], promisesRule),
  (idOf [1, 3, 6, 1, 4, 1, 11129, 2, 4, 3], whole null),
  (idOf [1, 3, 36, 8, 3, 3], admissionsRule)]

/-- Checks one extension. -/
def Extension.check (e : Extension) : Except Fault.Kind Unit :=
  match rules.lookup e.id with
  | some rule => rule.check e.content
  | none => .ok ()

/-- Checks extensions, in order, none of which may occur twice. -/
def checkExtensions (extensions : List Extension) : Except Fault.Kind Unit :=
  if hasRepeated (extensions.map Extension.id) then .error .extensionRepeated
  else extensions.forM Extension.check

/-- The values of the alternative names, if there is an extension for them. -/
def alternativeNames? (extensions : List Extension) :
    Except Fault.Kind (Option (List GeneralName.Value)) :=
  match (extensions.find? fun e => e.id == alternativeNamesId).bind fun e =>
      generalNames.readOctets e.content with
  | some names => some <$> names.mapM GeneralName.read
  | none => .ok none

end Portcullis.Certificate
