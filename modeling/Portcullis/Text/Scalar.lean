/-
# Numbers and switches in settings and forms

An integer may have blanks around it, a plus sign, leading zeros, a minus sign behind them, single
underscores between its digits, and a point with zeros behind it; its digits are ASCII.  The parts
are taken away one after the other until plain digits are left.  A switch is one of twelve words in
either letter case.
-/
import Portcullis.Text.Digits

namespace Portcullis.Text

/-- The value of an ASCII digit. -/
def asciiDigit? (c : CodePoint) : Option Nat :=
  if c.isAsciiDigit then some (c.val - 0x30) else none

/-- Why a text is no integer. -/
inductive IntegerProblem where
  | notAnInteger
  | tooManyDigits
deriving DecidableEq

/-- The sign and digits behind the zeros and underscores that a text begins with, when its first
sign is a zero; a zero before a point or at the end is left. -/
def dropZeros? (last : CodePoint) : Text → Option Text
  | [] => some [last]
  | c :: rest =>
    if c.val = 0x30 ∨ c.val = 0x5F then dropZeros? c rest
    else if c.isAsciiDigit ∨ c.val = 0x2D then some (c :: rest)
    else if c.val = 0x2E then some (last :: c :: rest)
    else none

/-- The text without a plus sign and without leading zeros, which begins with a digit or a minus
sign. -/
def dropLead? (t : Text) : Option Text :=
  let unsigned := match t with
    | c :: rest =>
      if c.val = 0x2B then (if startsWith rest "-" then [] else rest) else c :: rest
    | [] => []
  match unsigned with
  | [] => none
  | c :: rest =>
    if c.val = 0x30 then dropZeros? c rest
    else if c.isAsciiDigit ∨ c.val = 0x2D then some (c :: rest)
    else none

/-- The text before a point that has only zeros, but at least one, behind it; any other text is left
as it is. -/
def dropZeroFraction (t : Text) : Text :=
  match cut (CodePoint.ofNat 0x2E) t with
  | (whole, some (c :: fraction)) =>
    if (c :: fraction).all fun d => d.val = 0x30 then whole else t
  | _ => t

/-- Whether two underscores stand side by side. -/
def hasDoubleUnderscore : Text → Bool
  | c :: d :: rest => (c.val == 0x5F && d.val == 0x5F) || hasDoubleUnderscore (d :: rest)
  | _ => false

/-- The text without its underscores, if each of them stands alone between two other signs; any
other text is left as it is. -/
def dropUnderscores (t : Text) : Text :=
  if startsWith t "_" || endsWith t "_" || hasDoubleUnderscore t then t
  else t.filter fun c => c.val != 0x5F

/-- The integer in plain digits with a minus sign or without one, and no leading zero.  A run of too
many digits is one even if other signs follow it. -/
def readPlainInteger (t : Text) : Except IntegerProblem Int :=
  let (negative, body) := match t with
    | c :: rest => if c.val = 0x2D then (true, rest) else (false, t)
    | [] => (false, [])
  let digits := body.takeWhile CodePoint.isAsciiDigit
  let leadingZero := startsWith digits "0" && digits.length != 1
  if digits.isEmpty || leadingZero then .error .notAnInteger
  else if maxDigits < digits.length + (if negative then 1 else 0) then .error .tooManyDigits
  else if digits.length ≠ body.length then .error .notAnInteger
  else
    let n : Int := ofDigits (digits.filterMap asciiDigit?)
    .ok (if negative then -n else n)

/-- The integer that a field of a form or setting spells. -/
def readInteger (t : Text) : Except IntegerProblem Int :=
  match dropLead? (trimEnds CodePoint.isSpace t) with
  | none => .error .notAnInteger
  | some plain => readPlainInteger (dropUnderscores (dropZeroFraction plain))

/-- The words for on and off. -/
def switchWords : List (Text × Bool) := [
  ("1", true), ("t", true), ("y", true), ("on", true), ("yes", true), ("true", true),
  ("0", false), ("f", false), ("n", false), ("off", false), ("no", false), ("false", false)]

/-- The switch that a text spells. -/
def readSwitch? (t : Text) : Option Bool := switchWords.lookup t.asciiLower

end Portcullis.Text
