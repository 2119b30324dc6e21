/-
# The shortest decimal that reads back

The decimal written for a binary64 number is one with the fewest digits that reads back as it, and
of those the nearest one.  For each number of digits only the two neighbours of the value on that
decimal grid are tried: if any point of the grid reads back, one of them does.  Of two that are
equally near the one with the even last digit is written.
-/
import Portcullis.Number.Decimal

namespace Portcullis.Double

/-- The power of ten of the leading digit of a positive rational. -/
def leadingPower (x : Rat) : Int :=
  let n := x.num.natAbs
  let guess : Int := Decimal.digitCount n - Decimal.digitCount x.den
  let reached :=
    if guess ≥ 0 then x.den * Nat.pow 10 guess.toNat ≤ n
    else x.den ≤ n * Nat.pow 10 (-guess).toNat
  if reached then guess else guess - 1

/-- The greatest multiple of a power of ten that is not above a rational, in units of that power. -/
def floorAt (x : Rat) (power : Int) : Nat :=
  let n := x.num.natAbs
  if power ≥ 0 then n / (x.den * Nat.pow 10 power.toNat) else n * Nat.pow 10 (-power).toNat / x.den

/-- Whether a decimal reads back as a number. -/
def readsBack (x : Double) (negative : Bool) (d : Decimal) : Bool := d.toDouble negative == x

/-- The nearer of two neighbours on a grid around a value, of equally near ones the even one. -/
def nearer (value : Rat) (below above : Decimal) : Decimal :=
  let down := value - below.toRat
  let up := above.toRat - value
  if down < up then below
  else if up < down then above
  else if below.digits % 2 = 0 then below
  else above

/-- The decimal with a given number of digits that reads back as a number, if there is one; of two,
the one nearer to the value. -/
def withDigits? (x : Double) (negative : Bool) (value : Rat) (count : Nat) : Option Decimal :=
  let power := leadingPower value - (count - 1 : Nat)
  let below : Decimal := ⟨floorAt value power, power⟩
  let above : Decimal := ⟨below.digits + 1, power⟩
  match readsBack x negative below, readsBack x negative above with
  | true, true => some (nearer value below above)
  | true, false => some below
  | false, true => some above
  | false, false => none

/-- The exact value as a decimal: halving is multiplying by five and dividing by ten. -/
def exactDecimal (significand : Nat) (exponent : Int) : Decimal :=
  if exponent ≥ 0 then ⟨significand * Nat.pow 2 exponent.toNat, 0⟩
  else ⟨significand * Nat.pow 5 (-exponent).toNat, exponent⟩

/-- The decimal that is written for the magnitude of a finite number. -/
def shortest (negative : Bool) (significand : Nat) (exponent : Int)
    (h : IsCanonical significand exponent) : Decimal :=
  if significand = 0 then ⟨0, 0⟩
  else
    let x : Double := .finite negative significand exponent h
    let value := scaled significand exponent
    ((List.range 17).findSome? fun n => withDigits? x negative value (n + 1)).getD
      (exactDecimal significand exponent) |>.trimmed

/-- The text of a number. -/
def text : Double → Text
  | .notANumber => "nan"
  | .infinite negative => if negative then "-inf" else "inf"
  | .finite negative m e h =>
    (if negative then ("-" : Text) else []) ++ (shortest negative m e h).text

end Portcullis.Double
