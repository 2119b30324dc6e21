/-
# The names in a certificate

The common names of the subject come first, then the alternative names: hosts, then addresses.  With
an extension for alternative names each name is listed once; without one the common names are listed
as they are.
-/
import Portcullis.Certificate.Extension
import Portcullis.Der.Algorithm
import Portcullis.Key.Pem

namespace Portcullis.Certificate

open Der Der.Form

/-! ## 1. Certificates -/

/-- What is kept of a certificate: the version counted from zero, the subject, the extensions. -/
structure Parts where
  version : Nat
  subject : List (List Attribute)
  extensions : List Extension

/-- The part of a certificate that is signed. -/
def signedForm : Form Parts := record do
  let version ← ((naturalOf 8).within 0xA0).fieldOr 0
  let _ ← integer.field
  let _ ← Algorithm.form.field
  let _ ← nameForm.field
  let _ ← (record do return (← time.field, ← time.field)).field
  let subject ← nameForm.field
  let _ ← (record do return (← Algorithm.form.field, ← bits.field)).field
  let _ ← (bits.retag 0x81).field?
  let _ ← (bits.retag 0x82).field?
  let extensions ← ((listOf extensionForm).within 0xA3).field?
  return ⟨version, subject, extensions.getD []⟩

/-- A certificate: the signed part, the algorithm and the signature. -/
def form : Form Parts := record do
  let parts ← signedForm.field
  let _ ← Algorithm.form.field
  let _ ← bits.field
  return parts

/-- The certificate in octets, which is of the first or the third version. -/
def read (b : Bytes) : Except Fault.Kind Parts :=
  match form.readOctets b with
  | none => .error .value
  | some parts =>
    if parts.version = 0 ∨ parts.version = 2 then .ok parts else .error .certificateVersion

/-! ## 2. Names -/

/-- The first of each of the equal members of a list. -/
def distinct (names : List Text) : List Text :=
  names.foldl (fun kept n => if kept.contains n then kept else kept ++ [n]) []

/-- The names in a certificate. -/
def Parts.names (parts : Parts) : Except Fault.Kind (List Text) := do
  let common ← commonNames parts.subject
  checkExtensions parts.extensions
  match ← alternativeNames? parts.extensions with
  | none => return common
  | some values => return distinct (common ++ hostsOf values)

/-! ## 3. Texts -/

/-- The labels under which a certificate stands in an armoured text. -/
def labels : List Text := ["CERTIFICATE", "X509 CERTIFICATE"]

/-- The names in the first certificate of an armoured text, if all its blocks are well-formed. -/
def namesInText (b : Bytes) : Except Fault.Kind (List Text) := do
  match (Pem.blocks b).bind fun blocks => blocks.find? fun block => labels.contains block.label with
  | none => .error .value
  | some block => (← read block.content).names

end Portcullis.Certificate
