/-
# Texts and times in tagged values

Each kind of text has a tag and a repertoire of its own.  A time is a date of the calendar and a
time of day in whole seconds, with the year in two digits or four.
-/
import Portcullis.Der.Form
import Portcullis.Text.Encoding

namespace Portcullis.Der.Form

/-! ## 1. Texts -/

/-- A text of one octet for each sign, all of which pass a test. -/
def narrowText (tag : Nat) (test : Nat → Bool) : Form Text :=
  (octetsOf tag fun b => b.all fun x => test x.toNat).map Bytes.toLatin1

/-- A text whose units another function joins, without surrogates. -/
def wideText (tag : Nat) (decode : Bytes → Option Text) : Form Text :=
  ofTag tag fun b => do
    let t ← decode b
    guard (!t.any CodePoint.isSurrogate)
    return t

/-- A text in UTF-8. -/
def utf8Text : Form Text := ofTag 0x0C Utf8.decode?

/-- A text in ASCII. -/
def asciiText : Form Text := narrowText 0x16 (· < 0x80)

/-- A text in the ASCII signs that are seen. -/
def visibleText : Form Text := narrowText 0x1A fun x => 0x20 ≤ x && x ≤ 0x7E

/-- The signs of printable texts beside letters and digits. -/
def printableSigns : List Nat :=
  [0x20, 0x27, 0x28, 0x29, 0x2B, 0x2C, 0x2D, 0x2E, 0x2F, 0x3A, 0x3D, 0x3F]

/-- A text in letters, digits and a few signs. -/
def printableText : Form Text := narrowText 0x13 fun x =>
  (0x41 ≤ x && x ≤ 0x5A) || (0x61 ≤ x && x ≤ 0x7A) || (0x30 ≤ x && x ≤ 0x39)
    || printableSigns.contains x

/-- A text in units of two octets. -/
def text16 : Form Text := wideText 0x1E (Encoding.decode16 .big)

/-- A text in units of four octets. -/
def text32 : Form Text := wideText 0x1C (Encoding.decode32 .big)

/-! ## 2. Times -/

/-- The number that decimal digits spell. -/
def digitsNumber? (b : Bytes) : Option Nat :=
  if b.all fun x => 0x30 ≤ x && x ≤ 0x39 then
    some (b.foldl (fun n x => n * 10 + (x.toNat - 0x30)) 0)
  else none

/-- The days of a month. -/
def daysOf (year month : Nat) : Nat :=
  if month = 2 then
    if year % 4 = 0 ∧ (year % 100 ≠ 0 ∨ year % 400 = 0) then 29 else 28
  else if month = 4 ∨ month = 6 ∨ month = 9 ∨ month = 11 then 30
  else 31

/-- Whether octets are month, day, hour, minute and second in two digits each and a `Z`. -/
def isTimeInYear (year : Nat) (b : Bytes) : Bool :=
  let part (i : Nat) := digitsNumber? ((b.drop (2 * i)).take 2)
  match part 0, part 1, part 2, part 3, part 4 with
  | some month, some day, some hour, some minute, some second =>
    b.length == 11 && b.drop 10 == [0x5A] && 1 ≤ month && month ≤ 12 && 1 ≤ day
      && day ≤ daysOf year month && hour ≤ 23 && minute ≤ 59 && second ≤ 59
  | _, _, _, _, _ => false

/-- A time whose year has two digits, from 1950 to 2049. -/
def shortTime : Form Bytes := octetsOf 0x17 fun b =>
  match digitsNumber? (b.take 2) with
  | some y => isTimeInYear (if y < 50 then 2000 + y else 1900 + y) (b.drop 2)
  | none => false

/-- A time whose year has four digits. -/
def longTime : Form Bytes := octetsOf 0x18 fun b =>
  match digitsNumber? (b.take 4) with
  | some y => isTimeInYear y (b.drop 4)
  | none => false

/-- A time in either form. -/
def time : Form Bytes := choice [shortTime, longTime]

end Portcullis.Der.Form
