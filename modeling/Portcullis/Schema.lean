/-
# Schemas

A schema names the fields of an object, each with what it holds and perhaps a default.  Reading is
lenient: a number may come as text, a whole binary64 number counts as an integer, and members that
are no fields are ignored.  Every field that does not hold is reported, in the order of the schema.
-/
import Portcullis.Json.Basic
import Portcullis.Text.Quoted
import Portcullis.Text.Scalar

namespace Portcullis

namespace Schema

/-! ## 1. Fields -/

/-- What a field holds. -/
inductive Content where
  /-- Any text. -/
  | text
  /-- A text of at least so many code points, and at most so many. -/
  | boundedText (least most : Nat)
  /-- A text or `null`. -/
  | optionalText
  /-- A text of at most so many code points, or `null`. -/
  | optionalBoundedText (most : Nat)
  /-- An integer. -/
  | integer
  /-- An integer in a range, both ends included. -/
  | boundedInteger (least most : Int)
  /-- On or off. -/
  | switch
  /-- One of some names. -/
  | choice (names : List Text)
  /-- An object. -/
  | object

/-- A field; one with a default may be missing. -/
structure Field where
  name : Text
  content : Content
  default : Option Json := none

end Schema

/-- The fields of an object, and what such an object is called. -/
structure Schema where
  name : Text
  fields : List Schema.Field

namespace Schema

/-! ## 2. Problems -/

/-- What is wrong with a value: the kind, a message, and the figures in it. -/
structure Defect where
  kind : Text
  message : Text
  figures : Members := []

/-- A defect of the value at a place. -/
structure Problem where
  place : List Text
  defect : Defect
  input : Json

namespace Defect

/-- No text. -/
def noText : Defect := ⟨"string_type", "Input should be a valid string", []⟩

/-- A text with a lone surrogate where none may be. -/
def noUnicode : Defect := ⟨"string_unicode",
  "Input should be a valid string, unable to parse raw data as a unicode string", []⟩

/-- A number of characters in a message. -/
def characters (n : Nat) : Text :=
  Text.decimal n ++ (if n = 1 then " character" else " characters")

/-- A text that is too short. -/
def tooShort (least : Nat) : Defect :=
  ⟨"string_too_short", ("String should have at least " : Text) ++ characters least,
    Members.single "min_length" (.int least)⟩

/-- A text that is too long. -/
def tooLong (most : Nat) : Defect :=
  ⟨"string_too_long", ("String should have at most " : Text) ++ characters most,
    Members.single "max_length" (.int most)⟩

/-- No integer. -/
def noInteger : Defect := ⟨"int_type", "Input should be a valid integer", []⟩

/-- A text that spells no integer. -/
def unreadInteger : Defect := ⟨"int_parsing",
  "Input should be a valid integer, unable to parse string as an integer", []⟩

/-- An integer with too many digits. -/
def longInteger : Defect := ⟨"int_parsing_size",
  "Unable to parse input string as an integer, exceeded maximum size", []⟩

/-- A number between two integers. -/
def fraction : Defect := ⟨"int_from_float",
  "Input should be a valid integer, got a number with a fractional part", []⟩

/-- A number that is not finite. -/
def notFinite : Defect := ⟨"finite_number", "Input should be a finite number", []⟩

/-- An integer below a range. -/
def below (least : Int) : Defect :=
  ⟨"greater_than_equal", ("Input should be greater than or equal to " : Text) ++ Text.ofInt least,
    Members.single "ge" (.int least)⟩

/-- An integer above a range. -/
def above (most : Int) : Defect :=
  ⟨"less_than_equal", ("Input should be less than or equal to " : Text) ++ Text.ofInt most,
    Members.single "le" (.int most)⟩

/-- Neither on nor off. -/
def noSwitch : Defect := ⟨"bool_type", "Input should be a valid boolean", []⟩

/-- A word or number that means neither on nor off. -/
def unreadSwitch : Defect := ⟨"bool_parsing",
  "Input should be a valid boolean, unable to interpret input", []⟩

/-- Names in a message: quoted, and the last one behind `or`. -/
def alternatives : List Text → Text
  | [] => []
  | [name] => name.quoted
  | [name, last] => name.quoted ++ " or " ++ last.quoted
  | name :: rest => name.quoted ++ ", " ++ alternatives rest

/-- None of some names. -/
def noChoice (names : List Text) : Defect :=
  ⟨"enum", ("Input should be " : Text) ++ alternatives names,
    Members.single "expected" (.text (alternatives names))⟩

/-- No object. -/
def noObject : Defect := ⟨"dict_type", "Input should be a valid dictionary", []⟩

/-- No value at all. -/
def missing : Defect := ⟨"missing", "Field required", []⟩

end Defect

namespace Problem

/-- What a client is told of a problem. -/
def summary (p : Problem) : Json := .object [
  ("type", .text p.defect.kind), ("loc", .texts p.place), ("msg", .text p.defect.message)]

/-- All that is known of a problem. -/
def detail (p : Problem) : Json :=
  let always : Members := [
    ("type", .text p.defect.kind), ("loc", .texts p.place), ("msg", .text p.defect.message),
    ("input", p.input)]
  .object (if p.defect.figures.isEmpty then always
    else always ++ Members.single "ctx" (.object p.defect.figures))

end Problem

/-! ## 3. Reading one value -/

/-- A text whose length is in a range. -/
def readBounded (least most : Nat) (t : Text) : Except Defect Json :=
  if t.any CodePoint.isSurrogate then .error .noUnicode
  else if t.length < least then .error (.tooShort least)
  else if t.length > most then .error (.tooLong most)
  else .ok (.text t)

/-- The integers that a binary64 number may stand for lie strictly between minus and plus this. -/
def integerBound : Int := Nat.pow 2 63

/-- The integer that a binary64 number is. -/
def wholeNumber (x : Double) : Except Defect Int :=
  match x.toRat? with
  | none => .error .notFinite
  | some q =>
    if q.den ≠ 1 then .error .fraction
    else if -integerBound < q.num ∧ q.num < integerBound then .ok q.num
    else .error .longInteger

/-- An integer. -/
def readInteger (v : Json) : Except Defect Int :=
  match v with
  | .int i => .ok i
  | .bool b => .ok (if b then 1 else 0)
  | .num x => wholeNumber x
  | .text t =>
    if t.any CodePoint.isSurrogate then .error .noUnicode
    else match Text.readInteger t with
      | .ok i => .ok i
      | .error .notAnInteger => .error .unreadInteger
      | .error .tooManyDigits => .error .longInteger
  | _ => .error .noInteger

/-- On or off by number. -/
def switchOfInteger (i : Int) : Except Defect Bool :=
  if i = 0 then .ok false
  else if i = 1 then .ok true
  else if -integerBound ≤ i ∧ i < integerBound then .error .unreadSwitch
  else .error .noSwitch

/-- On or off. -/
def readSwitch (v : Json) : Except Defect Bool :=
  match v with
  | .bool b => .ok b
  | .int i => switchOfInteger i
  | .num x => match wholeNumber x with
    | .ok i => switchOfInteger i
    | .error _ => .error .noSwitch
  | .text t =>
    if t.any CodePoint.isSurrogate then .error .noUnicode
    else match Text.readSwitch? t with
      | some b => .ok b
      | none => .error .unreadSwitch
  | _ => .error .noSwitch

/-- The value of a field. -/
def Content.read (content : Content) (v : Json) : Except Defect Json :=
  match content, v with
  | .text, .text t => .ok (.text t)
  | .boundedText least most, .text t => readBounded least most t
  | .optionalText, .null => .ok .null
  | .optionalText, .text t => .ok (.text t)
  | .optionalBoundedText _, .null => .ok .null
  | .optionalBoundedText most, .text t => readBounded 0 most t
  | .text, _ | .boundedText .., _ | .optionalText, _ | .optionalBoundedText _, _ => .error .noText
  | .integer, v => .int <$> readInteger v
  | .boundedInteger least most, v => do
    let i ← readInteger v
    if i < least then .error (.below least)
    else if most < i then .error (.above most)
    else return .int i
  | .switch, v => .bool <$> readSwitch v
  | .choice names, .text t => if names.contains t then .ok (.text t) else .error (.noChoice names)
  | .choice names, _ => .error (.noChoice names)
  | .object, .object ms => .ok (.object ms)
  | .object, _ => .error .noObject

/-! ## 4. Reading an object -/

/-- The value of a field among members, or what is wrong with it. -/
def Field.read (field : Field) (ms : Members) : Except Problem Json :=
  match ms.get? field.name with
  | some v => match field.content.read v with
    | .ok value => .ok value
    | .error defect => .error ⟨[field.name], defect, v⟩
  | none => match field.default with
    | some value => .ok value
    | none => .error ⟨[field.name], .missing, .object ms⟩

/-- The values of fields among members, or everything that is wrong with them. -/
def readFields (ms : Members) : List Field → Except (List Problem) Members
  | [] => .ok []
  | field :: rest =>
    match field.read ms, readFields ms rest with
    | .ok value, .ok values => .ok ((field.name, value) :: values)
    | .ok _, .error problems => .error problems
    | .error problem, .ok _ => .error [problem]
    | .error problem, .error problems => .error (problem :: problems)

/-- The fields of an object, or everything that is wrong with them. -/
def read (schema : Schema) (ms : Members) : Except (List Problem) Members :=
  readFields ms schema.fields

end Schema

end Portcullis
