import ReleaseSupport.Calendar.Date

/-!
Instants in UTC with leap seconds, and the time that elapses between two of them. A leap second has
no second of its own: it is the second `:59` before it with a billion nanoseconds or more. Instants
compare by date, then second of the day, then nanoseconds.
-/

set_option autoImplicit false
set_option relaxedAutoImplicit false

namespace ReleaseSupport.Calendar

/-- A span of time in nanoseconds, negative backwards. -/
structure Elapsed where
  nanoseconds : Int
  deriving DecidableEq, Repr

namespace Elapsed

instance : LT Elapsed := ⟨fun a b => a.nanoseconds < b.nanoseconds⟩

instance (a b : Elapsed) : Decidable (a < b) := Int.decLt a.nanoseconds b.nanoseconds

/-- The longest span: the greatest number of milliseconds that a signed 64-bit word holds. -/
def longest : Int := 9223372036854775807 * 1000000

/-- Whole days as a span, unless they are longer than the longest span either way. -/
def ofDays? (days : Int) : Option Elapsed :=
  let nanoseconds := days * 86400 * 1000000000
  if -longest ≤ nanoseconds ∧ nanoseconds ≤ longest then some ⟨nanoseconds⟩ else none

theorem isSome_ofDays?_iff {days : Int} :
    (ofDays? days).isSome = true ↔ -106751991167 ≤ days ∧ days ≤ 106751991167 := by
  have bound : longest = 9223372036854775807000000 := rfl
  unfold ofDays?
  dsimp only
  split <;> simp <;> omega

/-- The whole seconds of a span, what is left over dropped toward zero. -/
def wholeSeconds (e : Elapsed) : Int := e.nanoseconds.tdiv 1000000000

def wholeMinutes (e : Elapsed) : Int := e.wholeSeconds.tdiv 60

def wholeHours (e : Elapsed) : Int := e.wholeSeconds.tdiv 3600

def wholeDays (e : Elapsed) : Int := e.wholeSeconds.tdiv 86400

end Elapsed

/-- An instant: a date, the second of the day and the nanoseconds after it, a billion or more of
them only in the leap second that follows the last second of a minute. -/
@[ext] structure Instant where
  date : Date
  second : Nat
  nanos : Nat
  second_lt : second < 86400 := by decide
  nanos_lt : nanos < 1000000000 ∨ (second % 60 = 59 ∧ nanos < 2000000000) := by decide
  deriving DecidableEq, Repr

namespace Instant

def position (t : Instant) : Int :=
  (t.date.dayNumber * 86400 + t.second) * 2000000000 + t.nanos

instance : LT Instant := ⟨fun a b => a.position < b.position⟩

instance : LE Instant := ⟨fun a b => a.position ≤ b.position⟩

instance (a b : Instant) : Decidable (a < b) := Int.decLt a.position b.position

instance (a b : Instant) : Decidable (a ≤ b) := Int.decLe a.position b.position

theorem not_lt {a b : Instant} : ¬ a < b ↔ b ≤ a := Int.not_lt

theorem le_trans {a b c : Instant} (hab : a ≤ b) (hbc : b ≤ c) : a ≤ c := Int.le_trans hab hbc

def inLeapSecond (t : Instant) : Bool := 1000000000 ≤ t.nanos

def of? (date : Date) (second nanos : Nat) : Option Instant :=
  if h : second < 86400 ∧
      (nanos < 1000000000 ∨ (second % 60 = 59 ∧ nanos < 2000000000)) then
    some ⟨date, second, nanos, h.1, h.2⟩
  else none

theorem of?_second_nanos (t : Instant) : of? t.date t.second t.nanos = some t :=
  dif_pos ⟨t.second_lt, t.nanos_lt⟩

def ofUnix? (seconds : Int) (nanos : Nat) : Option Instant := do
  let date ← Date.ofDayNumber? (seconds / 86400)
  of? date (seconds % 86400).toNat nanos

def unixSeconds (t : Instant) : Int := t.date.dayNumber * 86400 + t.second

/-- The second that a leap second adds between two times of the day when it lies in the earlier one,
and takes away when it lies in the later one. -/
def leapAdjustment (a b : Instant) : Int :=
  if b.second < a.second ∧ b.inLeapSecond then 1
  else if a.second < b.second ∧ a.inLeapSecond then -1
  else 0

def sub (a b : Instant) : Elapsed :=
  ⟨((a.date.dayNumber - b.date.dayNumber) * 86400 + (a.second - b.second) + leapAdjustment a b) *
    1000000000 + (a.nanos - b.nanos)⟩

instance : HSub Instant Instant Elapsed := ⟨sub⟩

def addMonths? (t : Instant) (months : Nat) : Option Instant :=
  (t.date.addMonths? months).map fun date => { t with date }

end Instant

end ReleaseSupport.Calendar
