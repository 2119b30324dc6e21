/-
# Writing JSON

The compact form: no blanks, members in their order.  It comes in two alphabets: in full Unicode
only the quotation mark, the backslash and controls are escaped; in ASCII everything else outside
the range from the space to the tilde is escaped too, by UTF-16 units.
-/
import Portcullis.Json.Basic
import Portcullis.Number.Shortest
import Portcullis.Text.Quoted

namespace Portcullis.Json

/-! ## 1. Texts -/

/-- The two alphabets. -/
inductive Alphabet where
  | unicode
  | ascii
deriving DecidableEq

/-- The escape of a UTF-16 unit. -/
def escapeUnit (unit : Nat) : Text := ("\\u" : Text) ++ Text.hexDigits 4 unit

/-- One code point inside a text. -/
def escapePoint (a : Alphabet) (c : CodePoint) : Text :=
  if c.val = 0x22 then "\\\""
  else if c.val = 0x5C then "\\\\"
  else if c.val = 0x08 then "\\b"
  else if c.val = 0x0C then "\\f"
  else if c.val = 0x0A then "\\n"
  else if c.val = 0x0D then "\\r"
  else if c.val = 0x09 then "\\t"
  else if c.val < 0x20 then escapeUnit c.val
  else if a = .unicode ∨ c.val < 0x7F then [c]
  else if c.val < 0x10000 then escapeUnit c.val
  else escapeUnit (0xD800 + (c.val - 0x10000) / 0x400)
    ++ escapeUnit (0xDC00 + (c.val - 0x10000) % 0x400)

/-- A text between quotation marks. -/
def printText (a : Alphabet) (t : Text) : Text :=
  CodePoint.ofNat 0x22 :: t.flatMap (escapePoint a) ++ [CodePoint.ofNat 0x22]

/-- A binary64 number; the three values that are not finite have names. -/
def printDouble : Double → Text
  | .notANumber => "NaN"
  | .infinite negative => if negative then "-Infinity" else "Infinity"
  | x => x.text

/-! ## 2. Values -/

mutual

/-- The compact form of a value. -/
def print (a : Alphabet) : Json → Text
  | .null => "null"
  | .bool b => if b then "true" else "false"
  | .int i => Text.ofInt i
  | .num x => printDouble x
  | .text t => printText a t
  | .list items => CodePoint.ofNat 0x5B :: printItems a items ++ [CodePoint.ofNat 0x5D]
  | .object ms => CodePoint.ofNat 0x7B :: printMembers a ms ++ [CodePoint.ofNat 0x7D]

/-- The items of a list, with commas between them. -/
def printItems (a : Alphabet) : List Json → Text
  | [] => []
  | [v] => print a v
  | v :: rest => print a v ++ CodePoint.ofNat 0x2C :: printItems a rest

/-- The members of an object, with commas between them. -/
def printMembers (a : Alphabet) : Members → Text
  | [] => []
  | [(k, v)] => printText a k ++ CodePoint.ofNat 0x3A :: print a v
  | (k, v) :: rest =>
    printText a k ++ CodePoint.ofNat 0x3A :: print a v ++ CodePoint.ofNat 0x2C
      :: printMembers a rest

end

/-- The compact form in ASCII. -/
def ascii (v : Json) : Text := print .ascii v

mutual

/-- Whether every binary64 number in a value is finite. -/
def isFinite : Json → Bool
  | .num .notANumber | .num (.infinite _) => false
  | .list items => isFiniteItems items
  | .object ms => isFiniteMembers ms
  | _ => true

/-- Whether every binary64 number in the items is finite. -/
def isFiniteItems : List Json → Bool
  | [] => true
  | v :: rest => isFinite v && isFiniteItems rest

/-- Whether every binary64 number in the members is finite. -/
def isFiniteMembers : Members → Bool
  | [] => true
  | (_, v) :: rest => isFinite v && isFiniteMembers rest

end

mutual

/-- Whether every integer in a value has at most as many digits as are read. -/
def integersFit : Json → Bool
  | .int i => (Text.decimal i.natAbs).length ≤ Text.maxDigits
  | .list items => integersFitItems items
  | .object ms => integersFitMembers ms
  | _ => true

/-- Whether every integer in the items has at most as many digits as are read. -/
def integersFitItems : List Json → Bool
  | [] => true
  | v :: rest => integersFit v && integersFitItems rest

/-- Whether every integer in the members has at most as many digits as are read. -/
def integersFitMembers : Members → Bool
  | [] => true
  | (_, v) :: rest => integersFit v && integersFitMembers rest

end

/-! ## 3. Values in messages -/

mutual

/-- The form of a value inside a message: texts are quoted, and the constants have names of their
own. -/
def shown : Json → Text
  | .null => "None"
  | .bool b => if b then "True" else "False"
  | .int i => Text.ofInt i
  | .num x => x.text
  | .text t => t.quoted
  | .list items => CodePoint.ofNat 0x5B :: shownItems items ++ [CodePoint.ofNat 0x5D]
  | .object ms => CodePoint.ofNat 0x7B :: shownMembers ms ++ [CodePoint.ofNat 0x7D]

/-- The items of a list inside a message. -/
def shownItems : List Json → Text
  | [] => []
  | [v] => shown v
  | v :: rest => shown v ++ ", " ++ shownItems rest

/-- The members of an object inside a message. -/
def shownMembers : Members → Text
  | [] => []
  | [(k, v)] => k.quoted ++ ": " ++ shown v
  | (k, v) :: rest => k.quoted ++ ": " ++ shown v ++ ", " ++ shownMembers rest

end

/-- The text of a value: a text as it is, any other value as inside a message. -/
def display : Json → Text
  | .text t => t
  | v => shown v

end Portcullis.Json
