import Mathlib.Order.Bounds.Basic
import ReleaseSupport.Calendar.Age
import ReleaseSupport.Proofs.Calendar.Months

/-!
The age of an instant. Its months are the greatest number that fits before the present, and counting
them down from the difference of the calendar months goes down at most once. The days, hours and
minutes are those of the time since the anchor, the instant these months after the start.
-/

set_option autoImplicit false
set_option relaxedAutoImplicit false

namespace ReleaseSupport.Calendar

namespace Elapsed

/-- The whole seconds of a span that falls short of zero by less than a second, if at all. -/
theorem wholeSeconds_eq {e : Elapsed} (h : -1000000000 < e.nanoseconds) :
    e.wholeSeconds = max 0 e.nanoseconds / 1000000000 := by
  unfold wholeSeconds
  rcases Int.le_total 0 e.nanoseconds with forward | backward
  · rw [Int.max_eq_right forward, Int.tdiv_eq_ediv_of_nonneg forward]
  · obtain ⟨short, same⟩ : ∃ short : Nat, e.nanoseconds = -(short : Int) :=
      Int.eq_ofNat_of_zero_le (Int.neg_nonneg.2 backward) |>.imp fun _ h => by omega
    have small : (short : Int) < 1000000000 := by omega
    rw [Int.max_eq_left backward, same, Int.neg_tdiv, Int.tdiv_eq_zero_of_lt (by omega) small]
    rfl

theorem wholeSeconds_nonneg {e : Elapsed} (h : -1000000000 < e.nanoseconds) :
    0 ≤ e.wholeSeconds := by
  rw [wholeSeconds_eq h]
  omega

/-- Days, hours below 24 and minutes below 60 make up the whole minutes of a span. -/
theorem days_hours_minutes {e : Elapsed} (h : -1000000000 < e.nanoseconds) :
    0 ≤ e.wholeDays ∧ (0 ≤ e.wholeHours.tmod 24 ∧ e.wholeHours.tmod 24 < 24) ∧
      (0 ≤ e.wholeMinutes.tmod 60 ∧ e.wholeMinutes.tmod 60 < 60) ∧
      e.wholeDays * 1440 + e.wholeHours.tmod 24 * 60 + e.wholeMinutes.tmod 60 =
        max 0 e.nanoseconds / 60000000000 := by
  have seconds := wholeSeconds_eq h
  have forward := wholeSeconds_nonneg h
  have days : e.wholeDays = e.wholeSeconds / 86400 := Int.tdiv_eq_ediv_of_nonneg forward
  have hours : e.wholeHours = e.wholeSeconds / 3600 := Int.tdiv_eq_ediv_of_nonneg forward
  have minutes : e.wholeMinutes = e.wholeSeconds / 60 := Int.tdiv_eq_ediv_of_nonneg forward
  rw [Int.tmod_eq_emod_of_nonneg (show 0 ≤ e.wholeHours by omega),
    Int.tmod_eq_emod_of_nonneg (show 0 ≤ e.wholeMinutes by omega)]
  omega

end Elapsed

namespace Instant

/-- Whether an instant lies in the leap second at the end of a day and another one in the first
second of the next day, at an earlier fraction. -/
structure SpillsOver (start now : Instant) : Prop where
  nextDay : now.date.dayNumber = start.date.dayNumber + 1
  lastSecond : start.second = 86399
  firstSecond : now.second = 0
  earlierFraction : now.nanos + 1000000000 < start.nanos

/-- The time since an earlier instant is negative only across the end of a leap second at midnight,
and then by less than a second. -/
theorem sub_nanoseconds {start now : Instant} (h : start ≤ now) :
    -1000000000 < (now - start).nanoseconds ∧
      ((now - start).nanoseconds < 0 ↔ start.SpillsOver now) := by
  have nowSecond := now.second_lt
  have nowNanos := now.nanos_lt
  have startSecond := start.second_lt
  have startNanos := start.nanos_lt
  have spills : start.SpillsOver now ↔ now.date.dayNumber = start.date.dayNumber + 1 ∧
      start.second = 86399 ∧ now.second = 0 ∧ now.nanos + 1000000000 < start.nanos :=
    ⟨fun ⟨a, b, c, d⟩ => ⟨a, b, c, d⟩, fun ⟨a, b, c, d⟩ => ⟨a, b, c, d⟩⟩
  rw [spills]
  change start.position ≤ now.position at h
  change -1000000000 < (sub now start).nanoseconds ∧ ((sub now start).nanoseconds < 0 ↔ _)
  unfold position at h
  unfold sub leapAdjustment inLeapSecond
  generalize now.date.dayNumber = today at h ⊢
  generalize start.date.dayNumber = first at h ⊢
  simp only [decide_eq_true_eq]
  -- Without an adjustment the order of the instants decides, but for the leap second that ends a
  -- day: it counts when the seconds of the day grow, and across midnight they do not.
  split
  · omega
  · split <;> omega

end Instant

namespace Age

variable {start now : Instant}

theorem monthDifference_eq (d e : Date) :
    monthDifference d e = e.monthNumber - d.monthNumber := by
  have lower := d.one_le_month
  have lower' := e.one_le_month
  unfold monthDifference Date.monthNumber
  omega

/-- Counting months down ends at the greatest number up to the bound that fits. -/
theorem wholeMonths_isGreatest (h : start ≤ now) (bound : Nat) :
    IsGreatest {k | k ≤ bound ∧ ∃ t, start.MonthsAfter k t ∧ t ≤ now}
      (wholeMonths start now bound) := by
  induction bound with
  | zero =>
    refine ⟨⟨Nat.le_refl 0, start, start.monthsAfter_zero, h⟩, ?_⟩
    rintro k ⟨small, -⟩
    exact small
  | succ bound ih =>
    -- If the bound itself does not fit, it makes no difference to what fits.
    have below (absent : ¬ ∃ t, start.MonthsAfter (bound + 1) t ∧ t ≤ now) :
        IsGreatest {k | k ≤ bound + 1 ∧ ∃ t, start.MonthsAfter k t ∧ t ≤ now}
          (wholeMonths start now bound) := by
      obtain ⟨⟨small, fits⟩, greatest⟩ := ih
      refine ⟨⟨Nat.le_succ_of_le small, fits⟩, ?_⟩
      rintro k ⟨le, later⟩
      rcases Nat.le_succ_iff.1 le with le | rfl
      · exact greatest ⟨le, later⟩
      · exact absurd later absent
    unfold wholeMonths
    cases added : start.addMonths? (bound + 1) with
    | none =>
      apply below
      rintro ⟨t, later, -⟩
      rw [Instant.addMonths?_eq_some_iff.2 later] at added
      cases added
    | some anchor =>
      dsimp only
      split
      case isTrue past =>
        apply below
        rintro ⟨t, later, before⟩
        rw [Instant.addMonths?_eq_some_iff.2 later] at added
        cases added
        exact Instant.not_le.2 past before
      case isFalse notPast =>
        have later := Instant.addMonths?_eq_some_iff.1 added
        exact ⟨⟨Nat.le_refl _, anchor, later, Instant.not_lt.1 notPast⟩, fun k hk => hk.1⟩

theorem le_monthDifference {k : Nat} {t : Instant} (later : start.MonthsAfter k t)
    (before : t ≤ now) :
    (k : Int) ≤ monthDifference start.date now.date := by
  rw [monthDifference_eq]
  by_contra exceeds
  have passed : now < t := Instant.lt_of_monthNumber_lt (by rw [later.monthNumber_eq]; omega)
  exact Instant.not_le.2 passed before

/-- The months of an age are the most that fit before the present, whatever their number. -/
theorem wholeMonths_monthDifference_isGreatest (h : start ≤ now) :
    IsGreatest {k | ∃ t, start.MonthsAfter k t ∧ t ≤ now}
      (wholeMonths start now (monthDifference start.date now.date).toNat) := by
  obtain ⟨⟨-, fits⟩, greatest⟩ :=
    wholeMonths_isGreatest h (monthDifference start.date now.date).toNat
  refine ⟨fits, ?_⟩
  rintro k ⟨t, later, before⟩
  have bounded := le_monthDifference later before
  exact greatest ⟨by omega, t, later, before⟩

/-- Counting down from the difference of the calendar months goes down at most once. -/
theorem monthDifference_le_wholeMonths (h : start ≤ now) :
    monthDifference start.date now.date ≤
      wholeMonths start now (monthDifference start.date now.date).toNat + 1 := by
  obtain ⟨-, greatest⟩ := wholeMonths_monthDifference_isGreatest h
  have difference := monthDifference_eq start.date now.date
  rcases Int.lt_or_le 0 (monthDifference start.date now.date) with positive | notPositive
  · -- One month less than the difference ends in the month before that of the present.
    obtain ⟨k, same⟩ : ∃ k : Nat, monthDifference start.date now.date = k + 1 :=
      ⟨(monthDifference start.date now.date).toNat - 1, by omega⟩
    obtain ⟨date, added⟩ : ∃ later, start.date.addMonths? k = some later :=
      Date.exists_addMonths? (e := now.date) (by omega)
    have later : start.MonthsAfter k { start with date } :=
      Instant.addMonths?_eq_some_iff.1 (by rw [Instant.addMonths?, added, Option.map_some])
    have before : ({ start with date } : Instant) < now :=
      Instant.lt_of_monthNumber_lt (by rw [later.monthNumber_eq]; omega)
    have fits := greatest ⟨_, later, Int.le_of_lt before⟩
    omega
  · omega

theorem between_of_le (h : now ≤ start) : between start now = {} := if_pos h

theorem between_of_lt (h : start < now) {anchor : Instant}
    (added : start.addMonths?
      (wholeMonths start now (monthDifference start.date now.date).toNat) = some anchor) :
    between start now =
      { years := wholeMonths start now (monthDifference start.date now.date).toNat / 12
        months := wholeMonths start now (monthDifference start.date now.date).toNat % 12
        days := (now - anchor).wholeDays
        hours := (now - anchor).wholeHours.tmod 24
        minutes := (now - anchor).wholeMinutes.tmod 60 } := by
  unfold between
  rw [if_neg (Instant.not_le.2 h)]
  dsimp only
  rw [added, Option.getD_some]

/-- An age is zero unless its start is past. Its months are then the greatest number that leads from
the start to an instant that is not after the present. They are the difference of the calendar
months or one less, and that instant always exists. The days, hours and minutes are the whole
minutes since then. That time is not negative, save from the leap second at the end of a day to an
earlier fraction of the first second of the next day; there it is less than a second. -/
theorem between_greatest_months (start now : Instant) :
    (now ≤ start → between start now = {}) ∧
    (start < now →
      let age := between start now
      let count := 12 * age.years + age.months
      age.months < 12 ∧ 0 ≤ age.days ∧ (0 ≤ age.hours ∧ age.hours ≤ 23) ∧
      (0 ≤ age.minutes ∧ age.minutes ≤ 59) ∧
      IsGreatest {k | ∃ t, start.MonthsAfter k t ∧ t ≤ now} count ∧
      wholeMonths start now (monthDifference start.date now.date).toNat = count ∧
      ((count : Int) = monthDifference start.date now.date ∨
        (count : Int) + 1 = monthDifference start.date now.date) ∧
      ∃ anchor, start.addMonths? count = some anchor ∧ start.MonthsAfter count anchor ∧
        anchor ≤ now ∧
        age.days * 1440 + age.hours * 60 + age.minutes =
          max 0 (now - anchor).nanoseconds / 60000000000 ∧
        ((now - anchor).nanoseconds < 0 ↔ anchor.SpillsOver now) ∧
        -1000000000 < (now - anchor).nanoseconds) := by
  refine ⟨between_of_le, ?_⟩
  intro h
  have earlier : start ≤ now := Int.le_of_lt h
  have greatest := wholeMonths_monthDifference_isGreatest earlier
  obtain ⟨anchor, later, before⟩ := greatest.1
  have added := Instant.addMonths?_eq_some_iff.2 later
  have atMost := le_monthDifference later before
  have atLeast := monthDifference_le_wholeMonths earlier
  obtain ⟨short, spills⟩ := Instant.sub_nanoseconds before
  obtain ⟨days, hours, minutes, total⟩ := Elapsed.days_hours_minutes short
  rw [between_of_lt h added]
  dsimp only
  rw [Nat.div_add_mod]
  refine ⟨Nat.mod_lt _ (by decide), days, ⟨hours.1, by omega⟩, ⟨minutes.1, by omega⟩, greatest,
    rfl, by omega, anchor, added, later, before, total, spills, short⟩

/-- From the end of January to the first of March it is a month, which ends with February, and a
day. -/
theorem between_january_and_march :
    let start : Instant :=
      { date := { year := 2024, month := 1, day := 31 }, second := 0, nanos := 0 }
    let now : Instant := { date := { year := 2024, month := 3, day := 1 }, second := 0, nanos := 0 }
    start < now ∧ between start now = { months := 1, days := 1 } ∧
      IsGreatest {k | ∃ t, start.MonthsAfter k t ∧ t ≤ now} 1 := by
  intro start now
  have earlier : start < now := by decide
  have age : between start now = { months := 1, days := 1 } := by decide
  obtain ⟨-, -, -, -, greatest, -⟩ := (between_greatest_months start now).2 earlier
  rw [age] at greatest
  exact ⟨earlier, age, greatest⟩

/-- From the middle of a leap second at the end of a year to the beginning of the next year it is
less than no time: the anchor is the start itself, and the time since then is negative. -/
theorem sub_anchor_negative_after_leap_second :
    let start : Instant :=
      { date := { year := 2016, month := 12, day := 31 }, second := 86399, nanos := 1500000000 }
    let now : Instant :=
      { date := { year := 2017, month := 1, day := 1 }, second := 0, nanos := 200000000 }
    start < now ∧ 12 * (between start now).years + (between start now).months = 0 ∧
      start.addMonths? 0 = some start ∧ (now - start).nanoseconds = -300000000 := by
  decide

end Age

end ReleaseSupport.Calendar
