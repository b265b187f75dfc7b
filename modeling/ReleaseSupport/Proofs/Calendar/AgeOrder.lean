import Mathlib.Data.Prod.Lex
import ReleaseSupport.Proofs.Calendar.Age

/-!
Ages in order: by years first, then by months, days, hours and minutes. What `Age.between` gives is
normal, with no part so large that it makes up one of the part before it, and normal ages compare by
all their months, then by all their minutes. It measures the time from the start in months up to an
anchor, the last that is not after the present, and in the minutes since.
-/

set_option autoImplicit false
set_option relaxedAutoImplicit false

namespace ReleaseSupport.Calendar

namespace Elapsed

theorem wholeMinutes_eq {e : Elapsed} (h : -1000000000 < e.nanoseconds) :
    e.wholeMinutes = max 0 e.nanoseconds / 60000000000 := by
  have seconds := wholeSeconds_eq h
  have minutes : e.wholeMinutes = e.wholeSeconds / 60 :=
    Int.tdiv_eq_ediv_of_nonneg (wholeSeconds_nonneg h)
  omega

end Elapsed

namespace Instant

variable {start start' t t' : Instant} {months months' : Nat}

theorem MonthsAfter.unique (h : start.MonthsAfter months t) (h' : start.MonthsAfter months t') :
    t = t' := by
  rw [← addMonths?_eq_some_iff] at h h'
  exact Option.some.inj (h.symm.trans h')

/-- More months lead to a later instant. -/
theorem MonthsAfter.lt_of_lt (h : start.MonthsAfter months t) (h' : start.MonthsAfter months' t')
    (fewer : months < months') : t < t' := by
  apply lt_of_monthNumber_lt
  rw [h.monthNumber_eq, h'.monthNumber_eq]
  omega

theorem MonthsAfter.le_of_le (h : start.MonthsAfter months t) (h' : start.MonthsAfter months' t')
    (notMore : months ≤ months') : t ≤ t' := by
  rcases Nat.lt_or_eq_of_le notMore with fewer | rfl
  · exact Int.le_of_lt (h.lt_of_lt h' fewer)
  · rw [h.unique h']
    exact Int.le_refl _

theorem sub_nanoseconds_eq_zero {a b : Instant} (hab : a ≤ b) (hba : b ≤ a) :
    (b - a).nanoseconds = 0 := by
  have same : a.position = b.position := Int.le_antisymm hab hba
  have aSecond := a.second_lt
  have bSecond := b.second_lt
  have aNanos := a.nanos_lt
  have bNanos := b.nanos_lt
  unfold position at same
  show (sub b a).nanoseconds = 0
  have second : b.second = a.second := by omega
  unfold sub leapAdjustment
  rw [second, if_neg (by omega), if_neg (by omega)]
  dsimp only
  omega

end Instant

namespace Age

/-- Years, months, days, hours and minutes, the parts of an age in the order of their weight. -/
def key (age : Age) : ℕ ×ₗ ℕ ×ₗ ℤ ×ₗ ℤ ×ₗ ℤ :=
  toLex (age.years, toLex (age.months, toLex (age.days, toLex (age.hours, age.minutes))))

theorem key_injective : Function.Injective key := by
  intro a b same
  cases a
  cases b
  cases same
  rfl

instance : LinearOrder Age := LinearOrder.lift' key key_injective

theorem le_iff {a b : Age} :
    a ≤ b ↔ a.years < b.years ∨ a.years = b.years ∧
      (a.months < b.months ∨ a.months = b.months ∧
        (a.days < b.days ∨ a.days = b.days ∧
          (a.hours < b.hours ∨ a.hours = b.hours ∧ a.minutes ≤ b.minutes))) := by
  show a.key ≤ b.key ↔ _
  simp only [key, Prod.Lex.toLex_le_toLex]

def monthCount (age : Age) : Nat := 12 * age.years + age.months

/-- The days, hours and minutes of an age in minutes. -/
def minuteCount (age : Age) : Int := age.days * 1440 + age.hours * 60 + age.minutes

/-- Whether no part of an age is negative, and months, hours and minutes stay below a year, a day
and an hour. For the days there is no such bound, since months differ in length. -/
structure Normal (age : Age) : Prop where
  months_lt : age.months < 12
  days_nonneg : 0 ≤ age.days
  hours_nonneg : 0 ≤ age.hours
  hours_lt : age.hours < 24
  minutes_nonneg : 0 ≤ age.minutes
  minutes_lt : age.minutes < 60

theorem normal_zero : Normal {} := by
  constructor <;> decide

namespace Normal

variable {a b : Age}

/-- Normal ages compare by all their months, then by all their minutes. -/
theorem le_iff (ha : a.Normal) (hb : b.Normal) :
    a ≤ b ↔ a.monthCount < b.monthCount ∨
      a.monthCount = b.monthCount ∧ a.minuteCount ≤ b.minuteCount := by
  obtain ⟨aMonths, aDays, aHours, aHours', aMinutes, aMinutes'⟩ := ha
  obtain ⟨bMonths, bDays, bHours, bHours', bMinutes, bMinutes'⟩ := hb
  rw [Age.le_iff]
  unfold monthCount minuteCount
  omega

theorem lt_iff (ha : a.Normal) (hb : b.Normal) :
    a < b ↔ a.monthCount < b.monthCount ∨
      a.monthCount = b.monthCount ∧ a.minuteCount < b.minuteCount := by
  rw [← not_le, hb.le_iff ha]
  omega

theorem zero_le (ha : a.Normal) : {} ≤ a := by
  rw [Age.le_iff]
  have days := ha.days_nonneg
  have hours := ha.hours_nonneg
  have minutes := ha.minutes_nonneg
  show 0 < a.years ∨ 0 = a.years ∧ (0 < a.months ∨ 0 = a.months ∧
    (0 < a.days ∨ 0 = a.days ∧ (0 < a.hours ∨ 0 = a.hours ∧ 0 ≤ a.minutes)))
  omega

end Normal

variable {start now anchor : Instant} {age : Age}

/-- Whether an age is the time from a start to the present: as many months as fit, which lead to the
anchor, and the whole minutes from there on. -/
structure Measures (start now anchor : Instant) (age : Age) : Prop extends age.Normal where
  monthsAfter : start.MonthsAfter age.monthCount anchor
  anchor_le : anchor ≤ now
  le_monthCount : ∀ k t, start.MonthsAfter k t → t ≤ now → k ≤ age.monthCount
  minuteCount_eq : age.minuteCount = (now - anchor).wholeMinutes

theorem measures_of_lt (h : start < now) :
    ∃ anchor, Measures start now anchor (between start now) := by
  obtain ⟨⟨anchor, later, before⟩, greatest⟩ :=
    wholeMonths_monthDifference_isGreatest (Int.le_of_lt h : start ≤ now)
  obtain ⟨short, -⟩ := Instant.sub_nanoseconds before
  obtain ⟨days, hours, minutes, total⟩ := Elapsed.days_hours_minutes short
  have age := between_of_lt h (Instant.addMonths?_eq_some_iff.2 later)
  have count : (between start now).monthCount =
      wholeMonths start now (monthDifference start.date now.date).toNat := by
    rw [age]
    exact Nat.div_add_mod _ 12
  refine ⟨anchor, ⟨?_, ?_, ?_, ?_, ?_, ?_⟩, count ▸ later, before, ?_, ?_⟩
  · rw [age]
    exact Nat.mod_lt _ (by decide)
  · rw [age]
    exact days
  · rw [age]
    exact hours.1
  · rw [age]
    exact hours.2
  · rw [age]
    exact minutes.1
  · rw [age]
    exact minutes.2
  · intro k t later' before'
    rw [count]
    exact greatest ⟨t, later', before'⟩
  · rw [Elapsed.wholeMinutes_eq short, ← total, age]
    rfl

/-- Every age is measured from its start, unless that lies in the future. -/
theorem exists_measures (h : start ≤ now) :
    ∃ anchor, Measures start now anchor (between start now) := by
  by_cases past : start < now
  · exact measures_of_lt past
  · have reached : now ≤ start := Instant.not_lt.1 past
    rw [between_of_le reached]
    refine ⟨start, normal_zero, start.monthsAfter_zero, h, ?_, ?_⟩
    · intro k t later before
      by_contra more
      have passed : start < t := start.monthsAfter_zero.lt_of_lt later (Nat.not_le.1 more)
      exact Instant.not_le.2 passed (Instant.le_trans before reached)
    · have none : (now - start).nanoseconds = 0 := Instant.sub_nanoseconds_eq_zero h reached
      rw [Elapsed.wholeMinutes_eq (by omega), none]
      rfl

theorem normal_between (start now : Instant) : (between start now).Normal := by
  by_cases past : start < now
  · obtain ⟨anchor, measured⟩ := measures_of_lt past
    exact measured.toNormal
  · rw [between_of_le (Instant.not_lt.1 past)]
    exact normal_zero

end Age

end ReleaseSupport.Calendar
