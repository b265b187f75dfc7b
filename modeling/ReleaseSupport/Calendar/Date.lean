/-!
Dates of the proleptic Gregorian calendar: leap years, the length of months, the number of a day
counted from 1970-01-01, and the date some whole months later.
-/

set_option autoImplicit false
set_option relaxedAutoImplicit false

namespace ReleaseSupport.Calendar

def firstYear : Int := -262143

def lastYear : Int := 262142

/-- Every fourth year is a leap year, save three of four that end a century. -/
def isLeapYear (year : Int) : Bool := year % 4 = 0 ∧ (year % 100 ≠ 0 ∨ year % 400 = 0)

def daysInMonth (year : Int) (month : Nat) : Nat :=
  if month = 2 then if isLeapYear year then 29 else 28
  else if month = 4 ∨ month = 6 ∨ month = 9 ∨ month = 11 then 30
  else 31

/-- The days from the first day of year 1 to the first day of a year. -/
def daysBeforeYear (year : Int) : Int :=
  365 * (year - 1) + (year - 1) / 4 - (year - 1) / 100 + (year - 1) / 400

/-- The days of the first so many months of a year. -/
def daysInMonths (year : Int) : Nat → Nat
  | 0 => 0
  | month + 1 => daysInMonths year month + daysInMonth year (month + 1)

/-- The days from the first day of year 1 to 1970-01-01. -/
def epochDays : Int := 719162

@[ext] structure Date where
  year : Int
  month : Nat
  day : Nat
  firstYear_le : firstYear ≤ year := by decide
  le_lastYear : year ≤ lastYear := by decide
  one_le_month : 1 ≤ month := by decide
  month_le : month ≤ 12 := by decide
  one_le_day : 1 ≤ day := by decide
  day_le : day ≤ daysInMonth year month := by decide
  deriving DecidableEq, Repr

namespace Date

def of? (year : Int) (month day : Nat) : Option Date :=
  if h : (firstYear ≤ year ∧ year ≤ lastYear) ∧ (1 ≤ month ∧ month ≤ 12) ∧
      1 ≤ day ∧ day ≤ daysInMonth year month then
    some ⟨year, month, day, h.1.1, h.1.2, h.2.1.1, h.2.1.2, h.2.2.1, h.2.2.2⟩
  else none

def dayNumber (d : Date) : Int :=
  daysBeforeYear d.year + daysInMonths d.year (d.month - 1) + d.day - 1 - epochDays

/-- The month, counting from a month on, in which a day falls that is given by its distance from the
first day of that month, and its place there. -/
def monthAndDay (year : Int) : (months : Nat) → (month rest : Nat) → Nat × Nat
  | 0, month, rest => (month, rest + 1)
  | months + 1, month, rest =>
    if rest < daysInMonth year month then (month, rest + 1)
    else monthAndDay year months (month + 1) (rest - daysInMonth year month)

/-- The date so many days after 1970-01-01. The days since year 1 are counted off in cycles of 400
years, then centuries, then groups of four years, then years; the last day of a leap cycle belongs
to its last part. -/
def ofDayNumber? (number : Int) : Option Date :=
  let days := number + epochDays
  let inCycle := days % 146097
  let centuries := min (inCycle / 36524) 3
  let inCentury := inCycle - 36524 * centuries
  let inGroup := inCentury % 1461
  let years := min (inGroup / 365) 3
  let year := 400 * (days / 146097) + 100 * centuries + 4 * (inCentury / 1461) + years + 1
  let (month, day) := monthAndDay year 11 1 (inGroup - 365 * years).toNat
  of? year month day

/-- The date so many months later, on the last day of the month if that month is too short; none
past the last year. -/
def addMonths? (d : Date) (months : Nat) : Option Date :=
  let total := d.year * 12 + (d.month - 1 : Nat) + months
  let year := total / 12
  let month := (total % 12).toNat + 1
  of? year month (min d.day (daysInMonth year month))

theorem of?_eq_some_iff {year : Int} {month day : Nat} {d : Date} :
    of? year month day = some d ↔ d.year = year ∧ d.month = month ∧ d.day = day := by
  unfold of?
  split
  case isTrue h => simp [Date.ext_iff, eq_comm]
  case isFalse h =>
    constructor
    · intro absent
      exact absurd absent (by simp)
    · rintro ⟨rfl, rfl, rfl⟩
      exact absurd ⟨⟨d.firstYear_le, d.le_lastYear⟩, ⟨d.one_le_month, d.month_le⟩,
        d.one_le_day, d.day_le⟩ h

theorem of?_year_month_day (d : Date) : of? d.year d.month d.day = some d :=
  of?_eq_some_iff.2 ⟨rfl, rfl, rfl⟩

end Date

end ReleaseSupport.Calendar
