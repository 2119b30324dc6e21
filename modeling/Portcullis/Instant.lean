/-
# Points in time

An instant is the exact number of seconds since the first of January 1970, in universal time; it may
have a fraction and lie before that day.  Clocks show instants in whole microseconds and as binary64
numbers, so that far from that day a fraction may be rounded to the next second.
-/
import Portcullis.Number.Double

namespace Portcullis

/-- Seconds since the first of January 1970. -/
abbrev Instant := Rat

namespace Instant

/-- The integer part, which lies between the instant and zero. -/
def wholeSeconds (t : Instant) : Int := if 0 ≤ t then t.floor else -(-t).floor

/-- The first instant of the year 1. -/
def earliest : Instant := -62135596800

/-- The first instant after the year 9999. -/
def latest : Instant := 253402300800

/-- Whether an instant has a date with a year from 1 to 9999. -/
def hasDate (t : Instant) : Bool := earliest ≤ t && t < latest

/-- The instant in whole microseconds, a half to the even one.  The fraction of a second is first
scaled as a binary64 number. -/
def toMicroseconds (t : Instant) : Instant :=
  let scaled := ((Double.ofRat ((t - wholeSeconds t) * 1000000)).toRat?).getD 0
  let below := scaled.floor
  let rest := scaled - below
  let up := decide (1 < rest * 2) || (decide (rest * 2 = 1) && below % 2 != 0)
  wholeSeconds t + ((if up then below + 1 else below : Int) : Rat) / 1000000

/-- The instant as a clock shows it: in whole microseconds, as a binary64 number. -/
def reading (t : Instant) : Instant :=
  let shown := toMicroseconds t
  ((Double.ofRat shown).toRat?).getD shown

/-- The second that an instant is written down as, which is that of the binary64 number. -/
def stamp (t : Instant) : Int := wholeSeconds (reading t)

end Instant

end Portcullis
