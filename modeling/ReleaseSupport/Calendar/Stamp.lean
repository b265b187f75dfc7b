import ReleaseSupport.Calendar.Instant
import ReleaseSupport.Text.Digit

/-!
The written forms of dates and instants. A year from 0 to 9999 has four digits; any other year has a
sign and at least four digits. The timestamp form writes whole seconds, the stamp form also a
fraction; in both a leap second is second 60.
-/

set_option autoImplicit false
set_option relaxedAutoImplicit false

namespace ReleaseSupport.Calendar

open ReleaseSupport.Text

def yearText (year : Int) : List Char :=
  if 0 ≤ year ∧ year ≤ 9999 then paddedDigits 4 year.toNat
  else (if year < 0 then '-' else '+') :: paddedDigits 4 year.natAbs

def twoDigits (n : Nat) : List Char := paddedDigits 2 n

namespace Date

def chars (d : Date) : List Char :=
  yearText d.year ++ '-' :: twoDigits d.month ++ '-' :: twoDigits d.day

def text (d : Date) : String := String.ofList d.chars

end Date

namespace Instant

/-- Hour, minute and second, joined by colons; a leap second is second 60. -/
def clockChars (t : Instant) : List Char :=
  twoDigits (t.second / 3600) ++ ':' :: twoDigits (t.second / 60 % 60) ++
    ':' :: twoDigits (t.second % 60 + t.nanos / 1000000000)

/-- The fraction of the second: none, or the fewest of three, six and nine digits that are exact. -/
def fractionChars (t : Instant) : List Char :=
  let fraction := t.nanos % 1000000000
  if fraction = 0 then []
  else if fraction % 1000000 = 0 then '.' :: paddedDigits 3 (fraction / 1000000)
  else if fraction % 1000 = 0 then '.' :: paddedDigits 6 (fraction / 1000)
  else '.' :: paddedDigits 9 fraction

def timestampChars (t : Instant) : List Char := t.date.chars ++ 'T' :: t.clockChars ++ ['Z']

/-- Date, `T`, time of the day in whole seconds, `Z`. -/
def timestamp (t : Instant) : String := String.ofList t.timestampChars

/-- Date, `T`, time of the day with its fraction, `Z`. -/
def stamp (t : Instant) : String :=
  String.ofList (t.date.chars ++ 'T' :: t.clockChars ++ t.fractionChars ++ ['Z'])

end Instant

end ReleaseSupport.Calendar
