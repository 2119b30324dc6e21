/-
# JSON in octets

The octets of a value are its compact text in UTF-8.  A value has none if it nests too deep, holds a
number that is not finite or an integer of too many digits, or holds a lone surrogate; the first of
these that applies is the fault.
-/
import Portcullis.Fault
import Portcullis.Text.Utf8

namespace Portcullis.Json

/-- The fault of a value with a number that is not finite. -/
def numberFault : Fault := .plain .value "Out of range float values are not JSON compliant"

/-- The octets of a value. -/
def octets (v : Json) : Except Fault Bytes :=
  if !v.nestsWithin maxDepth then .error (.ofKind .recursion)
  else if !v.isFinite then .error numberFault
  else if !v.integersFit then .error (.ofKind .value)
  else match (print .unicode v).utf8? with
    | some b => .ok b
    | none => .error (.ofKind .encoding)

end Portcullis.Json
