/-
# Integers in text

Decimal digits of every script count: each script has its ten digits in a row, so a table of the
zeros is enough.  An integer may carry a sign, single underscores between digits, and blanks
around it.  The information separators are no blanks here.
-/
import Portcullis.Text.Blank

namespace Portcullis

/-! ## 1. Digits -/

/-- The digits zero of Unicode 14; the digits one to nine of the script follow each. -/
def Text.zeros : List Nat := [
  0x30, 0x660, 0x6F0, 0x7C0, 0x966, 0x9E6, 0xA66, 0xAE6, 0xB66, 0xBE6, 0xC66, 0xCE6, 0xD66, 0xDE6,
  0xE50, 0xED0, 0xF20, 0x1040, 0x1090, 0x17E0, 0x1810, 0x1946, 0x19D0, 0x1A80, 0x1A90, 0x1B50,
  0x1BB0, 0x1C40, 0x1C50, 0xA620, 0xA8D0, 0xA900, 0xA9D0, 0xA9F0, 0xAA50, 0xABF0, 0xFF10, 0x104A0,
  0x10D30, 0x11066, 0x110F0, 0x11136, 0x111D0, 0x112F0, 0x11450, 0x114D0, 0x11650, 0x116C0,
  0x11730, 0x118E0, 0x11950, 0x11C50, 0x11D50, 0x11DA0, 0x16A60, 0x16AC0, 0x16B50, 0x1D7CE,
  0x1D7D8, 0x1D7E2, 0x1D7EC, 0x1D7F6, 0x1E140, 0x1E2F0, 0x1E950, 0x1FBF0]

/-- The value of a decimal digit of any script. -/
def CodePoint.digitValue? (c : CodePoint) : Option Nat :=
  (Text.zeros.find? fun first => first ≤ c.val && c.val ≤ first + 9).map (c.val - ·)

namespace Text

/-! ## 2. Natural numbers -/

/-- The number whose decimal digits are given, the first one the most significant. -/
def ofDigits (digits : List Nat) : Nat := digits.foldl (fun n d => 10 * n + d) 0

/-- An integer in text has at most this many digits. -/
def maxDigits : Nat := 4300

/-- The values of the digits of a text in which single underscores may stand between digits. -/
def groupedDigits? (digit? : CodePoint → Option Nat) : Text → Option (List Nat)
  | [] => none
  | c :: rest => do
    let d ← digit? c
    match rest with
    | [] => some [d]
    | next :: more =>
      if next = CodePoint.ofChar '_' then (d :: ·) <$> groupedDigits? digit? more
      else (d :: ·) <$> groupedDigits? digit? (next :: more)

/-! ## 3. Integers -/

/-- The sign at the beginning of a text (whether it is a minus), and the rest. -/
def cutSign : Text → Bool × Text
  | [] => (false, [])
  | c :: rest =>
    if c = CodePoint.ofChar '-' then (true, rest)
    else if c = CodePoint.ofChar '+' then (false, rest)
    else (false, c :: rest)

/-- The integer that a text spells, in digits of any script. -/
def toInt? (t : Text) : Option Int := do
  let (negative, body) := cutSign (trimEnds CodePoint.isSpace t)
  let digits ← groupedDigits? CodePoint.digitValue? body
  guard (digits.length ≤ maxDigits)
  let n := ofDigits digits
  return if negative then -n else n

end Text

end Portcullis
