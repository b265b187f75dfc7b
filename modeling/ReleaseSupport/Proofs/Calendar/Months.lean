import ReleaseSupport.Calendar.Instant

/-!
Calendar months. Every day of a month comes before every day of a later month, so dates compare by
the number of their month first. The date some months after another is the same day of its month, or
the last one of a month that is too short, and there is one exactly up to the last year.
-/

set_option autoImplicit false
set_option relaxedAutoImplicit false

namespace ReleaseSupport.Calendar

theorem daysBeforeYear_succ (year : Int) :
    daysBeforeYear (year + 1) = daysBeforeYear year + if isLeapYear year then 366 else 365 := by
  simp only [daysBeforeYear, isLeapYear, decide_eq_true_eq]
  split <;> omega

theorem daysBeforeYear_mono {a b : Int} (h : a ≤ b) : daysBeforeYear a ≤ daysBeforeYear b := by
  unfold daysBeforeYear
  omega

theorem daysInMonths_twelve (year : Int) :
    daysInMonths year 12 = if isLeapYear year then 366 else 365 := by
  cases leap : isLeapYear year <;> simp [daysInMonths, daysInMonth, leap]

theorem daysInMonths_mono (year : Int) {m n : Nat} (h : m ≤ n) :
    daysInMonths year m ≤ daysInMonths year n := by
  induction h with
  | refl => exact Nat.le_refl _
  | step _ ih => exact Nat.le_trans ih (Nat.le_add_right _ _)

theorem one_le_daysInMonth (year : Int) (month : Nat) : 1 ≤ daysInMonth year month := by
  unfold daysInMonth
  split
  · split <;> omega
  · split <;> omega

theorem daysInMonth_le (year : Int) (month : Nat) : daysInMonth year month ≤ 31 := by
  unfold daysInMonth
  split
  · split <;> omega
  · split <;> omega

namespace Date

/-- The number of the month of a date, counted from the first month of year 0. -/
def monthNumber (d : Date) : Int := d.year * 12 + (d.month - 1 : Nat)

/-- The first day of the month after the one of a date, if that lies in the same year. -/
theorem dayNumber_lt_monthEnd (d : Date) :
    d.dayNumber < daysBeforeYear d.year + daysInMonths d.year d.month - epochDays := by
  have fits := d.day_le
  obtain ⟨month, same⟩ := Nat.exists_eq_add_of_le' d.one_le_month
  have months : daysInMonths d.year d.month =
      daysInMonths d.year (d.month - 1) + daysInMonth d.year d.month := by
    rw [same]
    rfl
  unfold dayNumber
  omega

theorem dayNumber_lt_of_monthNumber_lt {d e : Date} (h : d.monthNumber < e.monthNumber) :
    d.dayNumber < e.dayNumber := by
  have ends := d.dayNumber_lt_monthEnd
  have lower := d.one_le_month
  have upper := d.month_le
  have lower' := e.one_le_month
  have upper' := e.month_le
  have first := e.one_le_day
  have begins : daysBeforeYear e.year + daysInMonths e.year (e.month - 1) - epochDays ≤
      e.dayNumber := by
    unfold dayNumber
    omega
  unfold monthNumber at h
  by_cases earlier : d.year < e.year
  · -- The year of the one ends before the year of the other begins.
    have months := daysInMonths_mono d.year upper
    have year := daysBeforeYear_succ d.year
    have whole := daysInMonths_twelve d.year
    have years : daysBeforeYear (d.year + 1) ≤ daysBeforeYear e.year :=
      daysBeforeYear_mono earlier
    split at year
    case isTrue leap =>
      rw [if_pos leap] at whole
      omega
    case isFalse common =>
      rw [if_neg common] at whole
      omega
  · have same : d.year = e.year := by omega
    have months : daysInMonths d.year d.month ≤ daysInMonths d.year (e.month - 1) :=
      daysInMonths_mono d.year (by omega)
    rw [same] at ends months
    omega

theorem year_month_of_monthNumber_eq {d e : Date} (h : e.monthNumber = d.monthNumber) :
    e.year = d.year ∧ e.month = d.month := by
  have lower := d.one_le_month
  have upper := d.month_le
  have lower' := e.one_le_month
  have upper' := e.month_le
  unfold monthNumber at h
  omega

theorem dayNumber_of_monthNumber_eq {d e : Date} (h : e.monthNumber = d.monthNumber) :
    e.dayNumber = d.dayNumber - d.day + e.day := by
  obtain ⟨year, month⟩ := year_month_of_monthNumber_eq h
  unfold dayNumber
  rw [year, month]
  omega

/-- A month is followed by the next one. -/
theorem dayNumber_of_monthNumber_eq_succ {d e : Date} (h : e.monthNumber = d.monthNumber + 1) :
    e.dayNumber = d.dayNumber - d.day + daysInMonth d.year d.month + e.day := by
  have lower := d.one_le_month
  have upper := d.month_le
  have lower' := e.one_le_month
  have upper' := e.month_le
  unfold monthNumber at h
  obtain ⟨month, same⟩ := Nat.exists_eq_add_of_le' lower
  have months : daysInMonths d.year d.month =
      daysInMonths d.year (d.month - 1) + daysInMonth d.year d.month := by
    rw [same]
    rfl
  by_cases december : d.month = 12
  · have year : e.year = d.year + 1 := by omega
    have first : e.month = 1 := by omega
    have begins : daysInMonths e.year (e.month - 1) = 0 := by
      rw [first]
      rfl
    have next := daysBeforeYear_succ d.year
    have whole := daysInMonths_twelve d.year
    have length : (if isLeapYear d.year then 366 else 365 : Int) =
        (daysInMonths d.year 12 : Nat) := by
      rw [whole]
      split <;> rfl
    rw [length, ← december, ← year] at next
    unfold dayNumber
    rw [begins]
    omega
  · have year : e.year = d.year := by omega
    have next : e.month - 1 = d.month := by omega
    unfold dayNumber
    rw [year, next]
    omega

theorem addMonths?_eq_some_iff {d e : Date} {months : Nat} :
    d.addMonths? months = some e ↔
      e.monthNumber = d.monthNumber + months ∧
        e.day = min d.day (daysInMonth e.year e.month) := by
  have lower := e.one_le_month
  have upper := e.month_le
  unfold addMonths?
  dsimp only
  rw [of?_eq_some_iff]
  constructor
  · rintro ⟨year, month, day⟩
    rw [← year, ← month] at day
    refine ⟨?_, day⟩
    unfold monthNumber
    omega
  · rintro ⟨number, day⟩
    unfold monthNumber at number
    have year : e.year = (d.year * 12 + (d.month - 1 : Nat) + months) / 12 := by omega
    have month : e.month = ((d.year * 12 + (d.month - 1 : Nat) + months) % 12).toNat + 1 := by
      omega
    exact ⟨year, month, by rw [← year, ← month]; exact day⟩

/-- There is a date so many months later if its month comes no later than one of the calendar. -/
theorem exists_addMonths? {d e : Date} {months : Nat}
    (h : d.monthNumber + months ≤ e.monthNumber) : ∃ later, d.addMonths? months = some later := by
  have lower := d.one_le_day
  have first := d.firstYear_le
  have last := e.le_lastYear
  have upper := e.month_le
  unfold monthNumber at h
  unfold addMonths? of?
  dsimp only
  have fits : 1 ≤ min d.day (daysInMonth ((d.year * 12 + (d.month - 1 : Nat) + months) / 12)
      (((d.year * 12 + (d.month - 1 : Nat) + months) % 12).toNat + 1)) :=
    Nat.le_min.2 ⟨lower, one_le_daysInMonth _ _⟩
  rw [dif_pos]
  · exact ⟨_, rfl⟩
  · exact ⟨⟨by omega, by omega⟩, ⟨by omega, by omega⟩, fits, Nat.min_le_right _ _⟩

end Date

namespace Instant

theorem not_le {a b : Instant} : ¬ a ≤ b ↔ b < a := Int.not_le

/-- Instants compare by day, then second of the day, then nanoseconds. -/
theorem lt_iff {a b : Instant} :
    a < b ↔ a.date.dayNumber < b.date.dayNumber ∨ a.date.dayNumber = b.date.dayNumber ∧
      (a.second < b.second ∨ a.second = b.second ∧ a.nanos < b.nanos) := by
  have aSecond := a.second_lt
  have bSecond := b.second_lt
  have aNanos := a.nanos_lt
  have bNanos := b.nanos_lt
  show a.position < b.position ↔ _
  unfold position
  omega

theorem le_iff {a b : Instant} :
    a ≤ b ↔ a.date.dayNumber < b.date.dayNumber ∨ a.date.dayNumber = b.date.dayNumber ∧
      (a.second < b.second ∨ a.second = b.second ∧ a.nanos ≤ b.nanos) := by
  rw [← not_lt, lt_iff]
  omega

theorem lt_of_dayNumber_lt {a b : Instant} (h : a.date.dayNumber < b.date.dayNumber) : a < b :=
  lt_iff.2 (Or.inl h)

theorem lt_of_monthNumber_lt {a b : Instant} (h : a.date.monthNumber < b.date.monthNumber) :
    a < b :=
  lt_of_dayNumber_lt (Date.dayNumber_lt_of_monthNumber_lt h)

theorem monthNumber_le_of_le {a b : Instant} (h : a ≤ b) :
    a.date.monthNumber ≤ b.date.monthNumber := by
  apply Int.not_lt.1
  intro later
  exact not_le.2 (lt_of_monthNumber_lt later) h

/-- The instant some calendar months after another: at the same time of the day, and on the same day
of its month, or on the last one if the month is too short. -/
structure MonthsAfter (start : Instant) (months : Nat) (t : Instant) : Prop where
  monthNumber_eq : t.date.monthNumber = start.date.monthNumber + months
  day_eq : t.date.day = min start.date.day (daysInMonth t.date.year t.date.month)
  second_eq : t.second = start.second
  nanos_eq : t.nanos = start.nanos

theorem addMonths?_eq_some_iff {start t : Instant} {months : Nat} :
    start.addMonths? months = some t ↔ start.MonthsAfter months t := by
  unfold addMonths?
  rw [Option.map_eq_some_iff]
  constructor
  · rintro ⟨date, later, rfl⟩
    obtain ⟨number, day⟩ := Date.addMonths?_eq_some_iff.1 later
    exact ⟨number, day, rfl, rfl⟩
  · rintro ⟨number, day, second, nanos⟩
    refine ⟨t.date, Date.addMonths?_eq_some_iff.2 ⟨number, day⟩, ?_⟩
    exact Instant.ext rfl second.symm nanos.symm

/-- There is an instant so many months later if its month is none after the present. -/
theorem exists_monthsAfter {start now : Instant} {months : Nat}
    (h : start.date.monthNumber + months ≤ now.date.monthNumber) :
    ∃ t, start.MonthsAfter months t := by
  obtain ⟨date, added⟩ := Date.exists_addMonths? h
  refine ⟨{ start with date }, addMonths?_eq_some_iff.1 ?_⟩
  rw [addMonths?, added, Option.map_some]

/-- From one month to the next there are at most 31 days, even if only the first is too short for
the day of the month. -/
theorem MonthsAfter.dayNumber_le {start t next : Instant} {months : Nat}
    (h : start.MonthsAfter months t) (h' : start.MonthsAfter (months + 1) next) :
    next.date.dayNumber ≤ t.date.dayNumber + 31 := by
  have number := h.monthNumber_eq
  have number' := h'.monthNumber_eq
  have day := h.day_eq
  have day' := h'.day_eq
  have length := daysInMonth_le t.date.year t.date.month
  have length' := daysInMonth_le next.date.year next.date.month
  have follows := Date.dayNumber_of_monthNumber_eq_succ (d := t.date) (e := next.date) (by omega)
  omega

theorem monthsAfter_zero (t : Instant) : t.MonthsAfter 0 t :=
  ⟨(Int.add_zero _).symm, (Nat.min_eq_left t.date.day_le).symm, rfl, rfl⟩

end Instant

end ReleaseSupport.Calendar
