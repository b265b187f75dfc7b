import ReleaseSupport.Calendar.Instant

/-!
The age of an instant as seen from a later one: whole calendar months first, as many as fit, then
days, hours and minutes of what is left. The age in words names the largest unit only.
-/

set_option autoImplicit false
set_option relaxedAutoImplicit false

namespace ReleaseSupport.Calendar

structure Age where
  years : Nat := 0
  months : Nat := 0
  days : Int := 0
  hours : Int := 0
  minutes : Int := 0
  deriving DecidableEq, Repr

namespace Age

/-- The months from the month of one date to the month of another, negative backwards. -/
def monthDifference (start now : Date) : Int :=
  (now.year - start.year) * 12 + ((now.month : Int) - start.month)

/-- The greatest number of months, up to a bound, whose addition to an instant does not pass the
present; zero if there is none. -/
def wholeMonths (start now : Instant) : (bound : Nat) → Nat
  | 0 => 0
  | months + 1 =>
    match start.addMonths? (months + 1) with
    | none => wholeMonths start now months
    | some anchor => if now < anchor then wholeMonths start now months else months + 1

def between (start now : Instant) : Age :=
  if now ≤ start then {}
  else
    let months := wholeMonths start now (monthDifference start.date now.date).toNat
    let rest := now - (start.addMonths? months).getD start
    { years := months / 12
      months := months % 12
      days := rest.wholeDays
      hours := rest.wholeHours.tmod 24
      minutes := rest.wholeMinutes.tmod 60 }

def countText (count : Int) (unit : String) : String :=
  toString count ++ " " ++ unit ++ (if 1 < count then "s" else "") ++ " ago"

/-- An age in words: its largest unit that is not zero. -/
def text (age : Age) : String :=
  if 0 < age.years then countText age.years "year"
  else if 0 < age.months then countText age.months "month"
  else if 0 < age.days then countText age.days "day"
  else if 0 < age.hours then countText age.hours "hour"
  else if 0 < age.minutes then countText age.minutes "minute"
  else "just now"

end Age

def Instant.ago (start now : Instant) : String := (Age.between start now).text

end ReleaseSupport.Calendar
