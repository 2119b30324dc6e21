/-
# Forms of tagged values

A form says which tags an element may have and how its content is read.  Forms are put together as
the standards that use them write theirs: a record of fields, some of which may be left out; a list;
one of several; and any of these under a tag of its own.
-/
import Portcullis.Der.Element

namespace Portcullis.Der

/-- The tags of a form and the reading of an element that has one of them. -/
structure Form (α : Type) where
  accepts : Nat → Bool
  value : Element → Option α

/-- The reading of the elements that stand first in a record. -/
abbrev Fields (α : Type) := StateT (List Element) Option α

namespace Form

variable {α β : Type}

/-! ## 1. Reading -/

/-- What an element of a form holds. -/
def read (f : Form α) (e : Element) : Option α := if f.accepts e.tag then f.value e else none

/-- What a sequence of octets holds that is one element of a form. -/
def readOctets (f : Form α) (b : Bytes) : Option α := do f.read (← single b)

/-- The next field of a record. -/
def field (f : Form α) : Fields α := fun es =>
  match es with
  | [] => none
  | e :: rest => do return (← f.read e, rest)

/-- The next field of a record, which may be left out: it is there if its tag is. -/
def field? (f : Form α) : Fields (Option α) := fun es =>
  match es with
  | [] => some (none, [])
  | e :: rest =>
    if f.accepts e.tag then do return (some (← f.value e), rest) else some (none, e :: rest)

/-- The next field of a record, which is left out exactly when it has its usual value. -/
def fieldOr [BEq α] (f : Form α) (usual : α) : Fields α := do
  match ← f.field? with
  | none => return usual
  | some a => if a == usual then failure else return a

/-! ## 2. Building -/

/-- The form with one tag, whose content a function reads. -/
def ofTag (tag : Nat) (read : Bytes → Option α) : Form α := ⟨(· == tag), fun e => read e.content⟩

/-- The form with one tag, whose content passes a test. -/
def octetsOf (tag : Nat) (test : Bytes → Bool) : Form Bytes :=
  ofTag tag fun b => if test b then some b else none

/-- Any element. -/
def any : Form Element := ⟨fun _ => true, some⟩

/-- A form with its result passed on to a function that may refuse it. -/
def andThen (f : Form α) (next : α → Option β) : Form β := ⟨f.accepts, fun e => f.value e >>= next⟩

/-- A form with its result passed on to a function. -/
def map (g : α → β) (f : Form α) : Form β := f.andThen fun a => some (g a)

/-- A form of one tag under another tag in its place. -/
def retag (tag : Nat) (f : Form α) : Form α := ⟨(· == tag), f.value⟩

/-- The one element inside an element of a tag. -/
def within (tag : Nat) (f : Form α) : Form α := ofTag tag f.readOctets

/-- The first of several forms that has the tag. -/
def choice (fs : List (Form α)) : Form α where
  accepts tag := fs.any fun f => f.accepts tag
  value e := do (← fs.find? fun f => f.accepts e.tag).value e

/-- A record: the elements inside, all of which its fields take. -/
def record (fields : Fields α) : Form α :=
  ofTag 0x30 fun b => do
    match ← fields (← elements b) with
    | (a, []) => some a
    | _ => none

/-- A list of elements of a form. -/
def listOf (f : Form α) : Form (List α) := ofTag 0x30 fun b => do (← elements b).mapM f.read

/-- Whether each sequence of octets is at most the next. -/
def isSorted : List Bytes → Bool
  | a :: b :: rest => a.le b && isSorted (b :: rest)
  | _ => true

/-- A set of elements of a form, which stand in the order of their octets. -/
def setOf (f : Form α) : Form (List α) := ofTag 0x31 fun b => do
  let es ← elements b
  guard (isSorted (es.map Element.whole))
  es.mapM f.read

/-! ## 3. Plain values -/

/-- Whether an integer takes as few octets as it can. -/
def isShortest : Bytes → Bool
  | [] => false
  | [_] => true
  | x :: y :: _ => !((x == 0 && y < 0x80) || (x == 0xFF && 0x80 ≤ y))

/-- An integer, in the octets of its two's complement. -/
def integer : Form Bytes := octetsOf 0x02 isShortest

/-- An integer that is not negative. -/
def natural : Form Nat :=
  integer.andThen fun b => if (b.headD 0).toNat < 0x80 then some (Bytes.toNat b) else none

/-- A natural number of at most so many bits. -/
def naturalOf (bits : Nat) : Form Nat :=
  natural.andThen fun n => if n < Nat.pow 2 bits then some n else none

/-- A truth value. -/
def boolean : Form Bool := ofTag 0x01 fun b =>
  if b = [0x00] then some false else if b = [0xFF] then some true else none

/-- The value that says nothing. -/
def null : Form Unit := ofTag 0x05 fun b => if b.isEmpty then some () else none

/-- A sequence of octets. -/
def octets : Form Bytes := ofTag 0x04 some

/-- A sequence of bits, in octets whose spare bits at the end are zeros. -/
def bits : Form Bytes := ofTag 0x03 fun b =>
  match b with
  | [] => none
  | spare :: rest =>
    if spare.toNat ≤ 7 ∧ (spare = 0 ∨ !rest.isEmpty) ∧
        (rest.getLastD 0).toNat % Nat.pow 2 spare.toNat = 0 then
      some rest
    else none

/-- Whether octets are the numbers of an object identifier. -/
def isObjectId (b : Bytes) : Bool :=
  !b.isEmpty && b.length ≤ 63 && (Bytes.readAll readSeptets b).isSome

/-- An object identifier, in its octets. -/
def objectId : Form Bytes := octetsOf 0x06 isObjectId

end Form

end Portcullis.Der
