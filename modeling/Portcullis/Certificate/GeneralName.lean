/-
# Alternative names

An alternative name is one of nine kinds, told apart by its tag.  Hosts and addresses are what
matters here; names of two kinds are refused, though only after all names are well-formed.
-/
import Portcullis.Certificate.Address
import Portcullis.Certificate.Name

namespace Portcullis.Certificate

open Der Der.Form

/-! ## 1. As they stand -/

/-- A name of one of the kinds. -/
inductive GeneralName where
  | host (name : Text)
  | address (octets : Bytes)
  | directory (name : List (List Attribute))
  /-- A name of a kind that is well-formed and not looked at. -/
  | ignored
  /-- A name of a kind that is not provided. -/
  | unknown

/-- A name of a kind that is named itself. -/
def otherName : Form Element := (record do
  let _ ← objectId.field
  (any.within 0xA0).field).retag 0xA0

/-- An alternative name. -/
def generalName : Form GeneralName := choice [
  (ofTag 0x82 Utf8.decode?).map .host,
  (ofTag 0x87 some).map .address,
  (nameForm.within 0xA4).map .directory,
  (ofTag 0x81 Utf8.decode?).map fun _ => .ignored,
  (ofTag 0x86 Utf8.decode?).map fun _ => .ignored,
  (objectId.retag 0x88).map fun _ => .ignored,
  otherName.map fun _ => .ignored,
  ofTag 0xA3 fun _ => some .unknown,
  ofTag 0xA5 fun _ => some .unknown]

/-! ## 2. Values -/

/-- What an alternative name says. -/
inductive GeneralName.Value where
  | host (name : Text)
  | address (text : Text)
  | network (text : Text)
  | ignored

/-- The value of an address or, if there are twice as many octets, of a network. -/
def readAddress (b : Bytes) : Except Fault.Kind GeneralName.Value :=
  match Address.text? b, Address.networkText? b with
  | some t, _ => .ok (.address t)
  | none, some t => .ok (.network t)
  | none, none => .error .value

/-- The value of an alternative name. -/
def GeneralName.read : GeneralName → Except Fault.Kind GeneralName.Value
  | host t => .ok (.host t)
  | address b => readAddress b
  | directory name => do
    let _ ← readName name
    return .ignored
  | ignored => .ok .ignored
  | unknown => .error .nameKind

/-- Hosts and then addresses among alternative names. -/
def hostsOf (values : List GeneralName.Value) : List Text :=
  values.filterMap (fun | .host t => some t | _ => none)
    ++ values.filterMap (fun | .address t | .network t => some t | _ => none)

end Portcullis.Certificate
