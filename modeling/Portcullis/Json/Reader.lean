/-
# Reading JSON

The reader takes the tokens in turn and keeps the containers that are open on a stack, so that the
nesting bound is a bound on the stack.  The first token that fits nowhere ends the reading.
-/
import Portcullis.Json.Token
import Portcullis.Text.Encoding

namespace Portcullis.Json

/-! ## 1. The stack -/

/-- A container that is open: what it holds so far, the latest first, and for an object the name
whose value is under way. -/
inductive Frame where
  | list (items : List Json)
  | object (members : List (Text × Json)) (name : Text)

/-- What may come next. -/
inductive Expected where
  /-- A value, or with `orClose` the end of the list that has just begun. -/
  | value (orClose : Bool)
  /-- A name, or with `orClose` the end of the object that has just begun. -/
  | name (members : List (Text × Json)) (orClose : Bool)
  /-- The colon after a name. -/
  | colon (members : List (Text × Json)) (name : Text)
  /-- A comma or the end of the innermost container, after a value in it. -/
  | separator
  /-- Nothing: the value is complete. -/
  | nothing (value : Json)

/-- The state of the reader. -/
structure Reading where
  stack : List Frame
  expected : Expected

/-- The state before the first token. -/
def Reading.initial : Reading := ⟨[], .value false⟩

namespace Reading

/-- Puts a complete value where it belongs. -/
def complete (stack : List Frame) (v : Json) : Reading :=
  match stack with
  | [] => ⟨[], .nothing v⟩
  | .list items :: rest => ⟨.list (v :: items) :: rest, .separator⟩
  | .object ms name :: rest => ⟨.object ((name, v) :: ms) name :: rest, .separator⟩

/-- Begins a value with its first token. -/
def beginValue (stack : List Frame) (token : Token) : Except ReadError Reading :=
  match token with
  | .scalar v => .ok (complete stack v)
  | .text t => .ok (complete stack (.text t))
  | .openList =>
    if stack.length < maxDepth then .ok ⟨.list [] :: stack, .value true⟩ else .error .tooDeep
  | .openObject =>
    if stack.length < maxDepth then .ok ⟨stack, .name [] true⟩ else .error .tooDeep
  | .fault e => .error e
  | _ => .error .malformed

/-- Takes one token. -/
def step (r : Reading) (token : Token) : Except ReadError Reading :=
  match r.expected, token with
  | _, .fault e => .error e
  | .value true, .closeList =>
    match r.stack with
    | .list [] :: rest => .ok (complete rest (.list []))
    | _ => .error .malformed
  | .value _, token => beginValue r.stack token
  | .name ms true, .closeObject => .ok (complete r.stack (.object (Members.ofPairs ms.reverse)))
  | .name ms _, .text name => .ok ⟨r.stack, .colon ms name⟩
  | .colon ms name, .colon => .ok ⟨.object ms name :: r.stack, .value false⟩
  | .separator, .comma =>
    match r.stack with
    | .list items :: rest => .ok ⟨.list items :: rest, .value false⟩
    | .object ms _ :: rest => .ok ⟨rest, .name ms false⟩
    | [] => .error .malformed
  | .separator, .closeList =>
    match r.stack with
    | .list items :: rest => .ok (complete rest (.list items.reverse))
    | _ => .error .malformed
  | .separator, .closeObject =>
    match r.stack with
    | .object ms _ :: rest => .ok (complete rest (.object (Members.ofPairs ms.reverse)))
    | _ => .error .malformed
  | _, _ => .error .malformed

end Reading

/-! ## 2. Documents -/

/-- The value of a sequence of tokens. -/
def ofTokens (ts : List Token) : Except ReadError Json := do
  match (← ts.foldlM Reading.step Reading.initial).expected with
  | .nothing v => return v
  | _ => .error .malformed

/-- The value that a text spells. -/
def read (t : Text) : Except ReadError Json := ofTokens (tokens t)

/-- The value that a sequence of octets in some encoding spells. -/
def readBytes (b : Bytes) : Except ReadError Json :=
  match Encoding.decode b with
  | none => .error .undecodable
  | some t => read t

end Portcullis.Json
