import ReleaseSupport.Proofs.Calendar.Growth
import ReleaseSupport.Proofs.Calendar.Words

/-!
Ages of two instants at one present. The earlier instant has the greater age but for two exceptions.
At the end of a month that is too short for the days of both, the same number of months leads both
to its last day, each at its own time of the day, so the later instant may get there first. And the
second of a leap second at the end of a day is lost when the present lies in a leap second earlier
in its day.
-/

set_option autoImplicit false
set_option relaxedAutoImplicit false

namespace ReleaseSupport.Calendar

namespace Instant

variable {a b now start start' t t' : Instant} {months : Nat}

/-- Whether one instant is the leap second that ends a day and another one the midnight after it,
seen from a leap second that does not end a day. -/
structure LosesLeapSecond (a b now : Instant) : Prop where
  lastSecond : a.second = 86399
  inLeapSecond : a.inLeapSecond = true
  nextDay : b.date.dayNumber = a.date.dayNumber + 1
  midnight : b.second = 0
  presently : now.inLeapSecond = true
  within : now.second < 86399

theorem inLeapSecond_iff (t : Instant) : t.inLeapSecond = true ↔ t.leapCount = 1 := by
  have nanos := t.nanos_lt
  unfold inLeapSecond leapCount
  rw [decide_eq_true_eq]
  omega

theorem LosesLeapSecond.wholeSeconds_sub (lost : LosesLeapSecond a b now) (wholeA : a.IsWhole)
    (wholeB : b.IsWhole) (hab : a ≤ b) (hb : b ≤ now) :
    (now - b).wholeSeconds = (now - a).wholeSeconds + 1 ∧ (now - a).wholeSeconds % 60 = 59 := by
  obtain ⟨last, leap, day, midnight, presently, within⟩ := lost
  have nowLeap := now.leapCount_cases
  rw [inLeapSecond_iff] at leap presently
  have before : now.second < a.second := by omega
  have after : b.second < now.second := by omega
  rw [Instant.wholeSeconds_sub wholeA (le_trans hab hb), Instant.wholeSeconds_sub wholeB hb,
    now.leapAgainst_of_lt before, a.leapAgainst_of_le (Nat.le_of_lt before),
    now.leapAgainst_of_le (Nat.le_of_lt after), b.leapAgainst_of_lt after]
  unfold unixSeconds
  omega

/-- The leap second that the later beginning of a second may count more passes between the two,
unless it is lost. -/
theorem wholeSeconds_sub_le (wholeA : a.IsWhole) (wholeB : b.IsWhole) (hab : a ≤ b) (hb : b ≤ now)
    (kept : ¬ LosesLeapSecond a b now) : (now - b).wholeSeconds ≤ (now - a).wholeSeconds := by
  rw [wholeSeconds_sub wholeA (le_trans hab hb), wholeSeconds_sub wholeB hb]
  have own := a.leapAgainst_le_one now
  have own' := b.leapAgainst_nonneg now
  unfold unixSeconds
  rcases le_iff.1 hab with day | ⟨day, forward | ⟨same, nanos⟩⟩
  · have gained := now.leapAgainst_nonneg a
    have gained' := now.leapAgainst_le_one b
    have second := a.second_lt
    by_cases adjacent : a.second = 86399 ∧ b.date.dayNumber = a.date.dayNumber + 1 ∧ b.second = 0
    · -- One second passes, and only if both leap seconds count are there two.
      obtain ⟨last, next, midnight⟩ := adjacent
      by_cases within : now.second < 86399
      · have notBoth : ¬ (a.inLeapSecond = true ∧ now.inLeapSecond = true) := by
          rintro ⟨leap, presently⟩
          exact kept ⟨last, leap, next, midnight, presently, within⟩
        rw [inLeapSecond_iff, inLeapSecond_iff] at notBoth
        have counted := a.leapAgainst_cases now
        have counted' := now.leapAgainst_cases b
        omega
      · have reached : a.second ≤ now.second := by omega
        rw [now.leapAgainst_of_le reached]
        have counted := now.leapCount_cases
        have counted' := now.leapAgainst_cases b
        omega
    · omega
  · have gained := now.leapAgainst_antitone (Nat.le_of_lt forward)
    omega
  · have gained := now.leapAgainst_congr same
    have stays := leapAgainst_mono now same nanos
    omega

/-- Fewer whole minutes have passed since the earlier beginning of a second only if its leap second
is lost. -/
theorem wholeMinutes_sub_lt_iff (wholeA : a.IsWhole) (wholeB : b.IsWhole) (hab : a ≤ b)
    (hb : b ≤ now) :
    (now - a).wholeMinutes < (now - b).wholeMinutes ↔ LosesLeapSecond a b now := by
  rw [wholeMinutes_sub (le_trans hab hb), wholeMinutes_sub hb]
  by_cases lost : LosesLeapSecond a b now
  · obtain ⟨next, last⟩ := lost.wholeSeconds_sub wholeA wholeB hab hb
    exact iff_of_true (by omega) lost
  · have seconds := wholeSeconds_sub_le wholeA wholeB hab hb lost
    exact iff_of_false (Int.not_lt.2 (Int.ediv_le_ediv (by decide) seconds)) lost

/-- The same number of months changes the order of two instants only at the end of a month: it is
too short for the later day, so that it leads both to its last day, the later one to an earlier time
of that day. -/
theorem clamped_of_lt {a a' : Instant} (h : start ≤ start') (later : start.MonthsAfter months a)
    (later' : start'.MonthsAfter months a') (turned : a' < a) :
    start.date.monthNumber = start'.date.monthNumber ∧ start.date.day < start'.date.day ∧
      a.date = a'.date ∧ daysInMonth a.date.year a.date.month ≤ start.date.day ∧
      (start'.second < start.second ∨
        start'.second = start.second ∧ start'.nanos < start.nanos) := by
  have number := later.monthNumber_eq
  have number' := later'.monthNumber_eq
  have turnedMonth := monthNumber_le_of_le (Int.le_of_lt turned : a' ≤ a)
  have sameMonth : start.date.monthNumber = start'.date.monthNumber := by
    have notLater := monthNumber_le_of_le h
    omega
  have sameTarget : a.date.monthNumber = a'.date.monthNumber := by omega
  obtain ⟨year, month⟩ := Date.year_month_of_monthNumber_eq sameTarget
  have day := later.day_eq
  have day' := later'.day_eq
  rw [← year, ← month] at day'
  have apart := Date.dayNumber_of_monthNumber_eq sameMonth
  have apart' := Date.dayNumber_of_monthNumber_eq sameTarget
  rw [le_iff] at h
  rw [lt_iff, later.second_eq, later'.second_eq, later.nanos_eq, later'.nanos_eq] at turned
  have sameDay : a.date.day = a'.date.day := by omega
  exact ⟨sameMonth, by omega, Date.ext year month sameDay, by omega, by omega⟩

end Instant

namespace Age

variable {start start' now : Instant}

/-- How a later instant comes to have the greater age. Its months lead both instants to the last day
of a month that is too short for their days, the later one at an earlier time of the day, which is
not yet time for the earlier one or leaves it fewer minutes. Or they lead the earlier one to a leap
second that is lost. -/
inductive Overtakes (start start' now : Instant) : Prop
  | monthEnd {anchor anchor' : Instant}
    (later : start.MonthsAfter (between start' now).monthCount anchor)
    (later' : start'.MonthsAfter (between start' now).monthCount anchor')
    (sameMonth : start.date.monthNumber = start'.date.monthNumber)
    (earlierDay : start.date.day < start'.date.day)
    (sameDay : anchor.date = anchor'.date)
    (clamped : daysInMonth anchor.date.year anchor.date.month ≤ start.date.day)
    (laterTime : start'.second < start.second ∨
      start'.second = start.second ∧ start'.nanos < start.nanos)
    (behind : now < anchor ∨
      (between start now).monthCount = (between start' now).monthCount ∧
        (now - anchor).wholeMinutes < (now - anchor').wholeMinutes)
  | leapSecond {anchor anchor' : Instant}
    (later : start.MonthsAfter (between start' now).monthCount anchor)
    (later' : start'.MonthsAfter (between start' now).monthCount anchor')
    (sameCount : (between start now).monthCount = (between start' now).monthCount)
    (lost : anchor.LosesLeapSecond anchor' now)

theorem overtakes_of_lt (whole : start.IsWhole) (whole' : start'.IsWhole) (earlier : start ≤ start')
    (past : start' ≤ now) (less : between start now < between start' now) :
    Overtakes start start' now := by
  obtain ⟨anchor, measured⟩ := exists_measures (Instant.le_trans earlier past)
  obtain ⟨anchor', measured'⟩ := exists_measures past
  have later' := measured'.monthsAfter
  have inCalendar : start.date.monthNumber + (between start' now).monthCount ≤
      anchor'.date.monthNumber := by
    have notLater := Instant.monthNumber_le_of_le earlier
    rw [later'.monthNumber_eq]
    omega
  obtain ⟨a, later⟩ := Instant.exists_monthsAfter inCalendar
  have behind : now < a ∨ (between start now).monthCount = (between start' now).monthCount ∧
      (now - a).wholeMinutes < (now - anchor').wholeMinutes := by
    rcases (measured.toNormal.lt_iff measured'.toNormal).1 less with fewer | ⟨same, minutes⟩
    · left
      by_contra reached
      have more := measured.le_monthCount _ a later (Instant.not_lt.1 reached)
      omega
    · right
      obtain rfl : anchor = a := measured.monthsAfter.unique (same ▸ later)
      rw [measured.minuteCount_eq, measured'.minuteCount_eq] at minutes
      exact ⟨same, minutes⟩
  by_cases turned : anchor' < a
  · obtain ⟨sameMonth, earlierDay, sameDay, clamped, laterTime⟩ :=
      Instant.clamped_of_lt earlier later later' turned
    exact .monthEnd later later' sameMonth earlierDay sameDay clamped laterTime behind
  · have inOrder : a ≤ anchor' := Instant.not_lt.1 turned
    rcases behind with ahead | ⟨same, minutes⟩
    · exact absurd (Instant.le_trans inOrder measured'.anchor_le) (Instant.not_le.2 ahead)
    · refine .leapSecond later later' same ?_
      exact (Instant.wholeMinutes_sub_lt_iff (later.isWhole whole) (later'.isWhole whole') inOrder
        measured'.anchor_le).1 minutes

theorem lt_of_overtakes (whole : start.IsWhole) (whole' : start'.IsWhole) (earlier : start ≤ start')
    (past : start' ≤ now) (overtaken : Overtakes start start' now) :
    between start now < between start' now := by
  obtain ⟨first, measured⟩ := exists_measures (Instant.le_trans earlier past)
  obtain ⟨first', measured'⟩ := exists_measures past
  rw [measured.toNormal.lt_iff measured'.toNormal]
  have minutes {a a' : Instant} (later : start.MonthsAfter (between start' now).monthCount a)
      (later' : start'.MonthsAfter (between start' now).monthCount a')
      (same : (between start now).monthCount = (between start' now).monthCount)
      (fewer : (now - a).wholeMinutes < (now - a').wholeMinutes) :
      (between start now).minuteCount < (between start' now).minuteCount := by
    rw [measured.minuteCount_eq, measured'.minuteCount_eq,
      measured.monthsAfter.unique (same ▸ later), measured'.monthsAfter.unique later']
    exact fewer
  cases overtaken with
  | @monthEnd a a' later later' _ _ _ _ _ behind =>
    rcases behind with ahead | ⟨same, fewer⟩
    · left
      by_contra notFewer
      have reached : a ≤ first := later.le_of_le measured.monthsAfter (Nat.not_lt.1 notFewer)
      exact Instant.not_le.2 ahead (Instant.le_trans reached measured.anchor_le)
    · exact Or.inr ⟨same, minutes later later' same fewer⟩
  | @leapSecond a a' later later' same lost =>
    have inOrder : a ≤ a' := Instant.le_iff.2 (Or.inl (by rw [lost.nextDay]; omega))
    obtain rfl := later'.unique measured'.monthsAfter
    refine Or.inr ⟨same, minutes later later' same ?_⟩
    exact (Instant.wholeMinutes_sub_lt_iff (later.isWhole whole) (later'.isWhole whole') inOrder
      measured'.anchor_le).2 lost

-- Seen from a leap second at noon, the leap second that ended the year is lost.
example :
    let start : Instant :=
      { date := { year := 2016, month := 12, day := 31 }, second := 86399, nanos := 1000000000 }
    let start' : Instant :=
      { date := { year := 2017, month := 1, day := 1 }, second := 0, nanos := 0 }
    let now : Instant :=
      { date := { year := 2017, month := 1, day := 1 }, second := 43259, nanos := 1000000000 }
    between start now = { hours := 12 } ∧ between start' now = { hours := 12, minutes := 1 } := by
  decide

/-- Of two instants that are not later than the present and have no fraction of a second, the
earlier one has the greater age or the same, unless it is overtaken. Otherwise its age in words says
as much as that of the later one, or more. -/
theorem between_le_iff_not_overtakes (whole : start.IsWhole) (whole' : start'.IsWhole)
    (earlier : start ≤ start') (past : start' ≤ now) :
    (between start' now ≤ between start now ↔ ¬ Overtakes start start' now) ∧
    (¬ Overtakes start start' now → ∀ unit' n', start'.ago now = AgeUnit.phrase unit' n' →
      ∃ unit n, start.ago now = AgeUnit.phrase unit n ∧
        (unit' < unit ∨ unit' = unit ∧ n' ≤ n)) := by
  have exactly : between start' now ≤ between start now ↔ ¬ Overtakes start start' now := by
    rw [← not_lt]
    exact not_congr ⟨overtakes_of_lt whole whole' earlier past,
      lt_of_overtakes whole whole' earlier past⟩
  refine ⟨exactly, ?_⟩
  intro kept unit' n' text
  have shown' : (between start' now).Shows unit' n' :=
    (text_eq_phrase_iff (normal_between start' now)).1 text
  obtain ⟨unit, n, shown, more⟩ :=
    shown'.exists_of_le (normal_between start now) (exactly.2 kept)
  exact ⟨unit, n, text_of_shows shown, more⟩

/-- Seen from the last day of February at noon, the evening of the thirtieth of January is less than
a month ago, and the night after it is a month ago. -/
theorem not_between_antitone :
    ¬ ∀ start start' now : Instant, start.IsWhole → start'.IsWhole → start ≤ start' →
      start' ≤ now → between start' now ≤ between start now := by
  intro antitone
  let start : Instant :=
    { date := { year := 2023, month := 1, day := 30 }, second := 82800, nanos := 0 }
  let start' : Instant :=
    { date := { year := 2023, month := 1, day := 31 }, second := 3600, nanos := 0 }
  let now : Instant :=
    { date := { year := 2023, month := 2, day := 28 }, second := 43200, nanos := 0 }
  have age : between start now = { days := 28, hours := 13 } := by decide
  have age' : between start' now = { months := 1, hours := 11 } := by decide
  have ordered := antitone start start' now (Or.inl rfl) (Or.inl rfl) (by decide) (by decide)
  rw [age, age'] at ordered
  exact absurd ordered (by decide)

/-- At the same places in January, but with the times of the day the other way round, the earlier
instant is a month old and the later one is not. -/
theorem between_le_iff_not_overtakes_in_february :
    let start : Instant :=
      { date := { year := 2023, month := 1, day := 30 }, second := 3600, nanos := 0 }
    let start' : Instant :=
      { date := { year := 2023, month := 1, day := 31 }, second := 82800, nanos := 0 }
    let now : Instant :=
      { date := { year := 2023, month := 2, day := 28 }, second := 43200, nanos := 0 }
    start.IsWhole ∧ start'.IsWhole ∧ start ≤ start' ∧ start' ≤ now ∧
      between start now = { months := 1, hours := 11 } ∧
      between start' now = { days := 27, hours := 13 } ∧ ¬ Overtakes start start' now ∧
      ∃ unit n, start.ago now = AgeUnit.phrase unit n ∧
        (AgeUnit.day < unit ∨ AgeUnit.day = unit ∧ 27 ≤ n) := by
  intro start start' now
  have whole : start.IsWhole := Or.inl rfl
  have whole' : start'.IsWhole := Or.inl rfl
  have earlier : start ≤ start' := by decide
  have past : start' ≤ now := by decide
  have age : between start now = { months := 1, hours := 11 } := by decide
  have age' : between start' now = { days := 27, hours := 13 } := by decide
  obtain ⟨exactly, words⟩ := between_le_iff_not_overtakes whole whole' earlier past
  have kept : ¬ Overtakes start start' now := by
    rw [← exactly, age, age']
    decide
  have text : start'.ago now = AgeUnit.phrase .day 27 := by
    unfold Instant.ago
    rw [age']
    rfl
  exact ⟨whole, whole', earlier, past, age, age', kept, words kept .day 27 text⟩

end Age

end ReleaseSupport.Calendar
