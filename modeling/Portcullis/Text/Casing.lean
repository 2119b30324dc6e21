/-
# Capital and small letters

The full case mappings: one code point may become up to three.  No mapping looks at the
neighbours of a letter, so that the capital sigma has one small form wherever it stands.
-/
import Portcullis.Text.Basic
import Portcullis.Text.CaseTable

namespace Portcullis

/-! ## 1. One code point -/

namespace Text

/-- The shift that a table in increasing order gives to a code point, if it gives one. -/
def findShift (c : Nat) : List CaseRun → Option Int
  | [] => none
  | r :: rest =>
    if c < r.first then none
    else if c ≤ r.last then (if (c - r.first) % r.step = 0 then some r.shift else none)
    else findShift c rest

/-- The mapping that a table of runs and a table of expansions describe. -/
def mapCase (runs : List CaseRun) (expansions : List (Nat × List Nat)) (c : Nat) : List Nat :=
  match findShift c runs with
  | some shift => [(c + shift).toNat]
  | none => match expansions.lookup c with
    | some image => image
    | none => [c]

end Text

/-- The capital form of a code point. -/
def CodePoint.upper (c : CodePoint) : Text :=
  (Text.mapCase Text.upperRuns Text.upperExpansions c.val).map CodePoint.ofNat

/-- The small form of a code point. -/
def CodePoint.lower (c : CodePoint) : Text :=
  (Text.mapCase Text.lowerRuns Text.lowerExpansions c.val).map CodePoint.ofNat

/-! ## 2. Texts -/

namespace Text

/-- The text in capitals. -/
def upper (t : Text) : Text := t.flatMap CodePoint.upper

/-- The text in small letters. -/
def lower (t : Text) : Text := t.flatMap CodePoint.lower

end Text

end Portcullis
