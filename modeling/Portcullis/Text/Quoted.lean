/-
# Quoted text

The form in which a report shows a text: between apostrophes, or between quotation marks when the
text holds an apostrophe and no quotation mark.  The chosen mark, the backslash and whatever is not
printable are escaped, the latter by its number in two, four or eight hexadecimal digits.
-/
import Portcullis.Text.Basic
import Portcullis.Text.PrintTable

namespace Portcullis

/-- Whether a code point is shown as it is. -/
def CodePoint.isPrintable (c : CodePoint) : Bool :=
  go c.val Text.unprintableRanges
where
  /-- The ranges are in increasing order, so the first one that ends at or after a number decides.
  -/
  go (n : Nat) : List (Nat × Nat) → Bool
    | [] => true
    | (first, last) :: rest => if n ≤ last then n < first else go n rest

namespace Text

/-- The lowest `width` hexadecimal digits of a number. -/
def hexDigits (width n : Nat) : Text :=
  (List.range width).reverse.map fun i => hexDigit (n / Nat.pow 16 i % 16)

/-- One code point between two marks. -/
def quotedPoint (mark c : CodePoint) : Text :=
  if c = mark ∨ c = CodePoint.ofNat 0x5C then [CodePoint.ofNat 0x5C, c]
  else if c.val = 0x09 then "\\t"
  else if c.val = 0x0A then "\\n"
  else if c.val = 0x0D then "\\r"
  else if c.isPrintable then [c]
  else if c.val < 0x100 then ("\\x" : Text) ++ hexDigits 2 c.val
  else if c.val < 0x10000 then ("\\u" : Text) ++ hexDigits 4 c.val
  else ("\\U" : Text) ++ hexDigits 8 c.val

/-- The apostrophe. -/
def apostrophe : CodePoint := CodePoint.ofNat 0x27

/-- The quotation mark. -/
def quotationMark : CodePoint := CodePoint.ofNat 0x22

/-- The mark that quotes a text. -/
def quoteMark (t : Text) : CodePoint :=
  if t.contains apostrophe && !t.contains quotationMark then quotationMark else apostrophe

/-- The text between quote marks. -/
def quoted (t : Text) : Text :=
  let mark := quoteMark t
  mark :: t.flatMap (quotedPoint mark) ++ [mark]

end Text

end Portcullis
