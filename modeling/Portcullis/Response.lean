/-
# Responses

A response has a status, headers and perhaps a JSON value as its body.  The body of a refusal holds
its code, and its hint unless that is `null`; whatever else fails has one body that tells nothing.
What stands on a page of the documentation is left out.

Two rules decide what may be a body.  Results may hold numbers that are not finite, which become
`null`; other bodies may not.  No body may hold a lone surrogate.
-/
import Portcullis.Json.Octets

namespace Portcullis

/-- A response; header names are in small letters. -/
structure Response where
  status : Int
  headers : List (Text × Text)
  body : Option Json

namespace Response

/-! ## 1. Bodies of failures -/

/-- The body of a refusal. -/
def errorBody (code : Text) (hint : Json) : Json :=
  match hint with
  | .null => .object [("errorCode", .text code)]
  | hint => .object [("errorCode", .text code), ("hint", hint)]

/-- The code of whatever fails inside the service. -/
def internalCode : Text := "server-error"

/-- The body of a failure that is told in words. -/
def detailBody (detail : Json) : Json := .object [("detail", detail)]

/-! ## 2. Bodies of results -/

mutual

/-- The value with `null` for every number that is not finite. -/
def finiteOrNull : Json → Json
  | .num .notANumber | .num (.infinite _) => .null
  | .list items => .list (finiteOrNullItems items)
  | .object ms => .object (finiteOrNullMembers ms)
  | v => v

/-- Each item with `null` for every number that is not finite. -/
def finiteOrNullItems : List Json → List Json
  | [] => []
  | v :: rest => finiteOrNull v :: finiteOrNullItems rest

/-- Each member with `null` for every number that is not finite. -/
def finiteOrNullMembers : Members → Members
  | [] => []
  | (k, v) :: rest => (k, finiteOrNull v) :: finiteOrNullMembers rest

end

mutual

/-- The first text in a value, names included, that holds a lone surrogate. -/
def firstUnpaired? : Json → Option Text
  | .text t => if t.any CodePoint.isSurrogate then some t else none
  | .list items => firstUnpairedItem? items
  | .object ms => firstUnpairedMember? ms
  | _ => none

/-- The first text in the items that holds a lone surrogate. -/
def firstUnpairedItem? : List Json → Option Text
  | [] => none
  | v :: rest => firstUnpaired? v <|> firstUnpairedItem? rest

/-- The first text in the members that holds a lone surrogate. -/
def firstUnpairedMember? : Members → Option Text
  | [] => none
  | (k, v) :: rest =>
    if k.any CodePoint.isSurrogate then some k
    else firstUnpaired? v <|> firstUnpairedMember? rest

end

/-- Where the first stretch of surrogates in a text stands, in words. -/
def unpairedPlace (t : Text) : Text :=
  let start := (t.takeWhile fun c => !c.isSurrogate).length
  let stretch := (t.drop start).takeWhile CodePoint.isSurrogate
  match stretch with
  | [c] =>
    ("character '" : Text) ++ "\\u" ++ Text.hexDigits 4 c.val ++ "' in position "
      ++ Text.decimal start
  | _ =>
    ("characters in position " : Text) ++ Text.decimal start ++ "-"
      ++ Text.decimal (start + stretch.length - 1)

/-- The fault of a result with a text that has no octets. -/
def renderingFault (t : Text) : Fault :=
  .plain .rendering (("Error serializing to JSON: UnicodeEncodeError: 'utf-8' codec can't encode "
    : Text) ++ unpairedPlace t ++ ": surrogates not allowed")

/-! ## 3. Responses -/

/-- The header of a JSON body. -/
def jsonHeaders : List (Text × Text) := [("content-type", "application/json")]

/-- The response with a JSON body. -/
def ofBody (status : Int) (headers : List (Text × Text)) (v : Json) : Except Fault Response := do
  let _ ← v.octets
  return ⟨status, jsonHeaders ++ headers, some v⟩

/-- The response with a result. -/
def ofResult (status : Int) (v : Json) : Except Fault Response :=
  match firstUnpaired? v with
  | some t => .error (renderingFault t)
  | none => .ok ⟨status, jsonHeaders, some (finiteOrNull v)⟩

/-- The response of a failure that is told in words. -/
def ofDetail (status : Int) (detail : Text) : Response :=
  ⟨status, jsonHeaders, some (detailBody (.text detail))⟩

/-- The response of whatever fails inside the service. -/
def internal : Response := ⟨500, jsonHeaders, some (errorBody internalCode .null)⟩

/-- The response that sends a client to another address. -/
def redirect : Response := ⟨307, [], none⟩

/-- The response with a page of the documentation, of a kind of text. -/
def page (mediaType : Text) : Response := ⟨200, [("content-type", mediaType)], none⟩

end Response

end Portcullis
