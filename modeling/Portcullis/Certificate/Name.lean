/-
# Distinguished names

A name is a list of sets of attributes.  When a certificate is read, only the repertoire of some
kinds of text is looked at; the value of each attribute is taken when the name is needed, and that
is where other kinds are refused.
-/
import Portcullis.Der.Text
import Portcullis.Fault

namespace Portcullis.Certificate

open Der Der.Form

/-! ## 1. As they stand -/

/-- An attribute: its name and an element. -/
structure Attribute where
  id : Bytes
  value : Element

/-- A form that keeps the element. -/
def keeping {α : Type} (f : Form α) : Form Element where
  accepts := f.accepts
  value e := do
    let _ ← f.value e
    return e

/-- A set of attributes. -/
def attributesForm : Form (List Attribute) := setOf (record do
  return ⟨← objectId.field,
    ← (choice [keeping text32, keeping text16, keeping printableText, any]).field⟩)

/-- A name. -/
def nameForm : Form (List (List Attribute)) := listOf attributesForm

/-! ## 2. Values -/

/-- What an attribute says. -/
inductive Attribute.Value where
  | text (t : Text)
  | bits (b : Bytes)
deriving DecidableEq

/-- The name of the attribute whose values are bits. -/
def uniqueId : Bytes := idOf [2, 5, 4, 45]

/-- The tags of texts that are read as UTF-8, whatever they are said to be. -/
def textTags : List Nat := [0x04, 0x0C, 0x12, 0x13, 0x14, 0x16, 0x17, 0x18, 0x1A]

/-- The value of an attribute. -/
def Attribute.read (a : Attribute) : Except Fault.Kind Attribute.Value :=
  let text (t : Option Text) : Except Fault.Kind Attribute.Value :=
    match t with
    | some t => .ok (.text t)
    | none => .error .value
  if a.value.tag = 0x03 then
    if a.id = uniqueId then .ok (.bits a.value.content) else .error .type
  else if a.value.tag = 0x1C then text (text32.read a.value)
  else if a.value.tag = 0x1E then text (text16.read a.value)
  else if textTags.contains a.value.tag then text (Utf8.decode? a.value.content)
  else .error .value

/-- Whether something occurs twice. -/
def hasRepeated {α : Type} [DecidableEq α] : List α → Bool
  | [] => false
  | a :: rest => rest.contains a || hasRepeated rest

/-- The values of a set of attributes, of which there is at least one and none twice. -/
def readSet (set : List Attribute) : Except Fault.Kind (List (Bytes × Attribute.Value)) := do
  let pairs ← set.mapM fun a => do return (a.id, ← a.read)
  if pairs.isEmpty || hasRepeated pairs then .error .value else return pairs

/-- The values of a name, in order. -/
def readName (name : List (List Attribute)) :
    Except Fault.Kind (List (Bytes × Attribute.Value)) := do
  return (← name.mapM readSet).flatten

/-- The name of the common name attribute. -/
def commonNameId : Bytes := idOf [2, 5, 4, 3]

/-- The common names in a name. -/
def commonNames (name : List (List Attribute)) : Except Fault.Kind (List Text) := do
  return (← readName name).filterMap fun
    | (id, .text t) => if id = commonNameId then some t else none
    | _ => none

end Portcullis.Certificate
