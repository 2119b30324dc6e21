/-
# Blank code points

The white space of Unicode and the four information separators U+001C to U+001F.  Trimming removes
them at both ends of a text.
-/
import Portcullis.Text.Basic

namespace Portcullis

/-! ## 1. The set -/

/-- The numbers of the blank code points, in increasing order. -/
def Text.blanks : List Nat := [
  0x9, 0xA, 0xB, 0xC, 0xD, 0x1C, 0x1D, 0x1E, 0x1F, 0x20, 0x85, 0xA0, 0x1680, 0x2000, 0x2001, 0x2002,
  0x2003, 0x2004, 0x2005, 0x2006, 0x2007, 0x2008, 0x2009, 0x200A, 0x2028, 0x2029, 0x202F, 0x205F,
  0x3000]

/-- Whether a code point is blank. -/
def CodePoint.isBlank (c : CodePoint) : Bool := Text.blanks.contains c.val

/-- Whether a code point is white space, that is a blank and no information separator. -/
def CodePoint.isSpace (c : CodePoint) : Bool := c.isBlank && !(0x1C ≤ c.val && c.val ≤ 0x1F)

namespace Text

example : blanks.length = 29 := rfl

/-! ## 2. Trimming -/

/-- The text without what a test holds of at its beginning and its end. -/
def trimEnds (drop : CodePoint → Bool) (t : Text) : Text :=
  ((t.dropWhile drop).reverse.dropWhile drop).reverse

/-- The text without the blanks at its two ends. -/
def strip (t : Text) : Text := trimEnds CodePoint.isBlank t

/-- Whether nothing but blanks is in the text. -/
def isBlank (t : Text) : Bool := t.all CodePoint.isBlank

end Text

end Portcullis
