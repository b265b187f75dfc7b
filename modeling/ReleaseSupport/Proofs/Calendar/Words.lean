import Mathlib.Data.Finset.Max
import Mathlib.Data.Fintype.Defs
import Std.Data.String.ToInt
import ReleaseSupport.Proofs.Calendar.AgeOrder
import ReleaseSupport.Proofs.Text.Numeral
import ReleaseSupport.Proofs.Text.Pieces

/-!
Ages in words. An age is written as the number of its largest unit that is not zero, and the words
can be read in one way only. Unless the present lies in a leap second, the number is never as large
as a larger unit, not even that of the days, and only what is less than a minute is just now.
-/

set_option autoImplicit false
set_option relaxedAutoImplicit false

namespace ReleaseSupport.Calendar

open ReleaseSupport.Text

def Elapsed.minute : Elapsed := ⟨60000000000⟩

/-- The units of an age, from the smallest to the largest. -/
inductive AgeUnit where
  | minute
  | hour
  | day
  | month
  | year
  deriving DecidableEq, Repr

namespace AgeUnit

instance : Fintype AgeUnit := ⟨{minute, hour, day, month, year}, by
  intro unit
  cases unit <;> decide⟩

def rank : AgeUnit → Nat
  | minute => 0
  | hour => 1
  | day => 2
  | month => 3
  | year => 4

theorem rank_injective : Function.Injective rank := by
  intro u v
  cases u <;> cases v <;> decide

instance : LT AgeUnit := ⟨fun u v => u.rank < v.rank⟩

instance (u v : AgeUnit) : Decidable (u < v) := Nat.decLt u.rank v.rank

def name : AgeUnit → String
  | minute => "minute"
  | hour => "hour"
  | day => "day"
  | month => "month"
  | year => "year"

/-- The greatest number of a unit that is less than the next larger unit, at its longest for a
month. There is none for years. -/
def most? : AgeUnit → Option Int
  | minute => some 59
  | hour => some 23
  | day => some 30
  | month => some 11
  | year => none

/-- So many of a unit, in the singular if it is one. -/
def phrase (unit : AgeUnit) (n : Int) : String :=
  toString n ++ " " ++ unit.name ++ (if n = 1 then "" else "s") ++ " ago"

theorem eq_of_take_name {u v : AgeUnit} (h : u.name.toList.take 2 = v.name.toList.take 2) :
    u = v := by
  revert h
  cases u <;> cases v <;> decide

theorem two_le_length_name (unit : AgeUnit) : 2 ≤ unit.name.toList.length := by
  cases unit <;> decide

theorem blank_not_mem_toString (n : Int) : ' ' ∉ (toString n).toList := by
  intro blank
  rcases isDigit_or_sign_of_mem_toString blank with digit | sign
  · exact absurd digit (by decide)
  · exact absurd sign (by decide)

theorem toList_begin (n : Int) (unit : AgeUnit) :
    (toString n ++ " " ++ unit.name).toList = (toString n).toList ++ ' ' :: unit.name.toList := by
  rw [String.toList_append, String.toList_append, List.append_assoc]
  rfl

theorem prefix_phrase (unit : AgeUnit) (n : Int) :
    (toString n ++ " " ++ unit.name).toList <+: (unit.phrase n).toList := by
  unfold phrase
  generalize toString n ++ " " ++ unit.name = begun
  rw [String.toList_append, String.toList_append, List.append_assoc]
  exact List.prefix_append _ _

/-- A text that begins with a number and a unit tells the number and the first two letters of the
unit, which no other unit begins with. -/
theorem begin_of_prefix {unit : AgeUnit} {m : Int} {digits rest : List Char} (inside : ' ' ∉ digits)
    (h : (toString m ++ " " ++ unit.name).toList <+: digits ++ ' ' :: rest) :
    (toString m).toList = digits ∧ unit.name.toList.take 2 = rest.take 2 := by
  obtain ⟨more, same⟩ := h
  rw [toList_begin, List.append_assoc, List.cons_append] at same
  obtain ⟨number, names⟩ := append_separator_inj (blank_not_mem_toString m) inside same
  refine ⟨number, ?_⟩
  rw [← names, List.take_append_of_le_length (two_le_length_name unit)]

/-- A phrase that begins with a number and a unit is about that number and unit. -/
theorem eq_of_prefix_phrase {u v : AgeUnit} {m n : Int}
    (h : (toString m ++ " " ++ u.name).toList <+: (v.phrase n).toList) : u = v ∧ m = n := by
  obtain ⟨ending, begun⟩ := prefix_phrase v n
  rw [← begun, toList_begin n v, List.append_assoc, List.cons_append] at h
  obtain ⟨number, initials⟩ := begin_of_prefix (blank_not_mem_toString n) h
  rw [List.take_append_of_le_length (two_le_length_name v)] at initials
  exact ⟨eq_of_take_name initials, Int.repr_injective (String.ext number)⟩

theorem not_prefix_justNow (unit : AgeUnit) (n : Int) :
    ¬ (toString n ++ " " ++ unit.name).toList <+: "just now".toList := by
  intro begins
  have pieces : "just now".toList = "just".toList ++ ' ' :: "now".toList := rfl
  rw [pieces] at begins
  obtain ⟨-, initials⟩ := begin_of_prefix (by decide) begins
  revert initials
  cases unit <;> decide

theorem phrase_ne_justNow (unit : AgeUnit) (n : Int) : unit.phrase n ≠ "just now" := by
  intro same
  exact not_prefix_justNow unit n (same ▸ prefix_phrase unit n)

end AgeUnit

theorem Instant.MonthsAfter.not_sub_lt_minute {start now anchor : Instant} {months : Nat}
    (later : start.MonthsAfter months anchor) (some : months ≠ 0) (reached : anchor ≤ now) :
    ¬ now - start < Elapsed.minute := by
  have number := later.monthNumber_eq
  have day : start.date.dayNumber < anchor.date.dayNumber :=
    Date.dayNumber_lt_of_monthNumber_lt (by omega)
  have second := later.second_eq
  have nanos := later.nanos_eq
  have startSecond := start.second_lt
  have nowSecond := now.second_lt
  have startNanos := start.nanos_lt
  have nowNanos := now.nanos_lt
  rw [Instant.le_iff] at reached
  show ¬ (Instant.sub now start).nanoseconds < 60000000000
  unfold Instant.sub Instant.leapAdjustment
  dsimp only
  split
  · omega
  · split <;> omega

namespace Age

/-- How many of a unit an age has. -/
def count (age : Age) : AgeUnit → Int
  | .minute => age.minutes
  | .hour => age.hours
  | .day => age.days
  | .month => age.months
  | .year => age.years

/-- Whether a unit, with its number, is the largest of an age that is not zero. -/
structure Shows (age : Age) (unit : AgeUnit) (n : Int) : Prop where
  count_eq : age.count unit = n
  pos : 0 < n
  larger_eq_zero : ∀ larger, unit < larger → age.count larger = 0

variable {start now anchor : Instant} {age : Age}

theorem not_shows_zero (unit : AgeUnit) (n : Int) : ¬ Shows {} unit n := by
  rintro ⟨rfl, pos, -⟩
  cases unit <;> exact absurd pos (by decide)

theorem text_of_shows {unit : AgeUnit} {n : Int} (h : age.Shows unit n) :
    age.text = unit.phrase n := by
  obtain ⟨rfl, pos, larger⟩ := h
  have plural : countText (age.count unit) unit.name = unit.phrase (age.count unit) := by
    unfold countText AgeUnit.phrase
    by_cases one : age.count unit = 1
    · rw [if_pos one, if_neg (by omega)]
    · rw [if_neg one, if_pos (by omega)]
  rw [← plural]
  unfold text
  cases unit with
  | year =>
    have years : 0 < age.years := Int.ofNat_lt.1 pos
    rw [if_pos years]
    rfl
  | month =>
    have months : 0 < age.months := Int.ofNat_lt.1 pos
    have years : (age.years : Int) = 0 := larger .year (by decide)
    rw [if_neg (by omega), if_pos months]
    rfl
  | day =>
    have days : 0 < age.days := pos
    have months : (age.months : Int) = 0 := larger .month (by decide)
    have years : (age.years : Int) = 0 := larger .year (by decide)
    rw [if_neg (by omega), if_neg (by omega), if_pos days]
    rfl
  | hour =>
    have hours : 0 < age.hours := pos
    have days : age.days = 0 := larger .day (by decide)
    have months : (age.months : Int) = 0 := larger .month (by decide)
    have years : (age.years : Int) = 0 := larger .year (by decide)
    rw [if_neg (by omega), if_neg (by omega), if_neg (by omega), if_pos hours]
    rfl
  | minute =>
    have minutes : 0 < age.minutes := pos
    have hours : age.hours = 0 := larger .hour (by decide)
    have days : age.days = 0 := larger .day (by decide)
    have months : (age.months : Int) = 0 := larger .month (by decide)
    have years : (age.years : Int) = 0 := larger .year (by decide)
    rw [if_neg (by omega), if_neg (by omega), if_neg (by omega), if_neg (by omega), if_pos minutes]
    rfl

theorem Normal.count_nonneg (normal : age.Normal) (unit : AgeUnit) : 0 ≤ age.count unit := by
  cases unit with
  | minute => exact normal.minutes_nonneg
  | hour => exact normal.hours_nonneg
  | day => exact normal.days_nonneg
  | month => exact Int.natCast_nonneg _
  | year => exact Int.natCast_nonneg _

theorem eq_zero_of_count (h : ∀ unit, age.count unit = 0) : age = {} := by
  obtain ⟨years, months, days, hours, minutes⟩ := age
  obtain rfl : years = 0 := Int.ofNat_eq_zero.1 (h .year)
  obtain rfl : months = 0 := Int.ofNat_eq_zero.1 (h .month)
  obtain rfl : days = 0 := h .day
  obtain rfl : hours = 0 := h .hour
  obtain rfl : minutes = 0 := h .minute
  rfl

/-- An age has a largest unit that is not zero, or none at all. -/
theorem shows_or_eq_zero (normal : age.Normal) : (∃ unit n, age.Shows unit n) ∨ age = {} := by
  let present := Finset.univ.filter fun unit => 0 < age.count unit
  have absent {unit : AgeUnit} (h : unit ∉ present) : age.count unit = 0 := by
    have nonneg := normal.count_nonneg unit
    have notPos : ¬ 0 < age.count unit := fun pos => h (by simp [present, pos])
    omega
  by_cases empty : present.Nonempty
  · obtain ⟨unit, member, top⟩ := present.exists_max_image AgeUnit.rank empty
    refine Or.inl ⟨unit, age.count unit, rfl, (Finset.mem_filter.1 member).2, ?_⟩
    intro larger above
    apply absent
    intro also
    exact absurd above (Nat.not_lt.2 (top larger also))
  · refine Or.inr (eq_zero_of_count fun unit => absent ?_)
    rw [Finset.not_nonempty_iff_eq_empty.1 empty]
    exact Finset.notMem_empty unit

theorem lt_of_count_lt {a b : Age} {unit : AgeUnit}
    (same : ∀ larger, unit < larger → a.count larger = b.count larger)
    (fewer : a.count unit < b.count unit) : a < b := by
  rw [← not_le, Age.le_iff]
  cases unit with
  | minute =>
    have hours : a.hours = b.hours := same .hour (by decide)
    have days : a.days = b.days := same .day (by decide)
    have months : (a.months : Int) = b.months := same .month (by decide)
    have years : (a.years : Int) = b.years := same .year (by decide)
    have minutes : a.minutes < b.minutes := fewer
    omega
  | hour =>
    have days : a.days = b.days := same .day (by decide)
    have months : (a.months : Int) = b.months := same .month (by decide)
    have years : (a.years : Int) = b.years := same .year (by decide)
    have hours : a.hours < b.hours := fewer
    omega
  | day =>
    have months : (a.months : Int) = b.months := same .month (by decide)
    have years : (a.years : Int) = b.years := same .year (by decide)
    have days : a.days < b.days := fewer
    omega
  | month =>
    have years : (a.years : Int) = b.years := same .year (by decide)
    have months : (a.months : Int) < b.months := fewer
    omega
  | year =>
    have years : (a.years : Int) < b.years := fewer
    omega

/-- A greater age shows more of a unit, or a larger one. -/
theorem Shows.exists_of_le {a b : Age} (normal : b.Normal) {unit : AgeUnit} {n : Int}
    (shown : a.Shows unit n) (h : a ≤ b) :
    ∃ larger m, b.Shows larger m ∧ (unit < larger ∨ unit = larger ∧ n ≤ m) := by
  obtain ⟨rfl, pos, zero⟩ := shown
  have notFewer (zero' : ∀ larger, unit < larger → b.count larger = 0) :
      a.count unit ≤ b.count unit := by
    by_contra fewer
    have less : b < a := lt_of_count_lt
      (fun larger above => (zero' larger above).trans (zero larger above).symm)
      (Int.not_le.1 fewer)
    exact absurd h (not_le.2 less)
  rcases shows_or_eq_zero normal with ⟨v, m, shown'⟩ | rfl
  · refine ⟨v, m, shown', ?_⟩
    obtain ⟨rfl, -, zero'⟩ := shown'
    rcases Nat.lt_trichotomy unit.rank v.rank with above | same | below
    · exact Or.inl above
    · obtain rfl : unit = v := AgeUnit.rank_injective same
      exact Or.inr ⟨rfl, notFewer zero'⟩
    · have none : b.count unit = 0 := zero' unit below
      have some := notFewer fun larger above => zero' larger (Nat.lt_trans below above)
      omega
  · have none (u : AgeUnit) : count {} u = 0 := by
      cases u <;> rfl
    have some := notFewer fun larger _ => none larger
    rw [none] at some
    omega

theorem text_eq_justNow_iff (normal : age.Normal) : age.text = "just now" ↔ age = {} := by
  constructor
  · intro same
    rcases shows_or_eq_zero normal with ⟨unit, n, shown⟩ | zero
    · rw [text_of_shows shown] at same
      exact absurd same (unit.phrase_ne_justNow n)
    · exact zero
  · rintro rfl
    rfl

/-- A text that begins like the phrase of a number and a unit is the text of an age that shows it.
-/
theorem shows_of_prefix_text (normal : age.Normal) {unit : AgeUnit} {n : Int}
    (h : (toString n ++ " " ++ unit.name).toList <+: age.text.toList) : age.Shows unit n := by
  rcases shows_or_eq_zero normal with ⟨u, m, shown⟩ | zero
  · rw [text_of_shows shown] at h
    obtain ⟨rfl, rfl⟩ := AgeUnit.eq_of_prefix_phrase h
    exact shown
  · rw [(text_eq_justNow_iff normal).2 zero] at h
    exact absurd h (unit.not_prefix_justNow n)

theorem text_eq_phrase_iff (normal : age.Normal) {unit : AgeUnit} {n : Int} :
    age.text = unit.phrase n ↔ age.Shows unit n := by
  constructor
  · intro same
    apply shows_of_prefix_text normal
    rw [same]
    exact unit.prefix_phrase n
  · exact text_of_shows

namespace Measures

/-- Between the anchor and the present there are at most 31 days, and if there are so many, then the
present is at an earlier time of its day. -/
theorem dayNumber_le (measured : age.Measures start now anchor) :
    now.date.dayNumber ≤ anchor.date.dayNumber + 30 ∨
      now.date.dayNumber = anchor.date.dayNumber + 31 ∧
        (now.second < anchor.second ∨ now.second = anchor.second ∧ now.nanos < anchor.nanos) := by
  have number := measured.monthsAfter.monthNumber_eq
  rcases Int.lt_or_eq_of_le (Instant.monthNumber_le_of_le measured.anchor_le) with later | same
  · -- There is a month more after the start, and it leads past the present.
    have inCalendar :
        start.date.monthNumber + (age.monthCount + 1 : Nat) ≤ now.date.monthNumber := by
      omega
    obtain ⟨next, ahead⟩ := Instant.exists_monthsAfter inCalendar
    have within := measured.monthsAfter.dayNumber_le ahead
    have past : now < next := by
      by_contra reached
      have more := measured.le_monthCount _ next ahead (Instant.not_lt.1 reached)
      omega
    have second : next.second = anchor.second :=
      ahead.second_eq.trans measured.monthsAfter.second_eq.symm
    have nanos : next.nanos = anchor.nanos :=
      ahead.nanos_eq.trans measured.monthsAfter.nanos_eq.symm
    rcases Instant.lt_iff.1 past with day | ⟨day, time⟩
    · omega
    · omega
  · left
    have first := anchor.date.one_le_day
    have fits := now.date.day_le
    have length := daysInMonth_le now.date.year now.date.month
    rw [Date.dayNumber_of_monthNumber_eq same.symm]
    omega

/-- Only a leap second can make the time since the anchor as long as 31 days. -/
theorem days_le_thirty (measured : age.Measures start now anchor)
    (outside : now.inLeapSecond = false) : age.days ≤ 30 := by
  have hours := measured.hours_nonneg
  have minutes := measured.minutes_nonneg
  have total := measured.minuteCount_eq
  obtain ⟨short, -⟩ := Instant.sub_nanoseconds measured.anchor_le
  have month : (now - anchor).nanoseconds < 2678400000000000 := by
    have nowSecond := now.second_lt
    have anchorNanos := anchor.nanos_lt
    have within := measured.dayNumber_le
    unfold Instant.inLeapSecond at outside
    rw [decide_eq_false_iff_not] at outside
    show (Instant.sub now anchor).nanoseconds < _
    unfold Instant.sub Instant.leapAdjustment Instant.inLeapSecond
    simp only [decide_eq_true_eq]
    split
    · omega
    · split <;> omega
  rw [Elapsed.wholeMinutes_eq short] at total
  unfold minuteCount at total
  omega

/-- The age is zero exactly in the first minute, for a month is longer than that. -/
theorem eq_zero_iff (measured : age.Measures start now anchor) :
    age = {} ↔ now - start < Elapsed.minute := by
  by_cases months : age.monthCount = 0
  · obtain rfl : anchor = start :=
      (months ▸ measured.monthsAfter).unique start.monthsAfter_zero
    have total := measured.minuteCount_eq
    obtain ⟨short, -⟩ := Instant.sub_nanoseconds measured.anchor_le
    rw [Elapsed.wholeMinutes_eq short] at total
    show _ ↔ (now - anchor).nanoseconds < 60000000000
    constructor
    · rintro rfl
      have none : minuteCount {} = 0 := rfl
      omega
    · intro brief
      apply le_antisymm _ measured.toNormal.zero_le
      refine (measured.toNormal.le_iff normal_zero).2 (Or.inr ⟨months, ?_⟩)
      show age.minuteCount ≤ 0
      omega
  · refine iff_of_false ?_ (measured.monthsAfter.not_sub_lt_minute months measured.anchor_le)
    rintro rfl
    exact months rfl

theorem most_of_shows (measured : age.Measures start now anchor)
    (outside : now.inLeapSecond = false) {unit : AgeUnit} {n : Int} (shown : age.Shows unit n) :
    1 ≤ n ∧ ∀ most, unit.most? = some most → n ≤ most := by
  obtain ⟨rfl, pos, -⟩ := shown
  refine ⟨pos, ?_⟩
  intro most largest
  cases unit with
  | minute =>
    cases largest
    exact Int.le_of_lt_add_one measured.minutes_lt
  | hour =>
    cases largest
    exact Int.le_of_lt_add_one measured.hours_lt
  | day =>
    cases largest
    exact measured.days_le_thirty outside
  | month =>
    cases largest
    exact Int.ofNat_le.2 (Nat.le_of_lt_succ measured.months_lt)
  | year => cases largest

end Measures

/-- Outside leap seconds the age in words is just now exactly if the start is not past or less than
a minute ago. Any other age is written as one or more of its largest unit that is not zero, and so
few that they make up none of the next unit. No text begins with another number of a unit. -/
theorem ago_largest_unit {now : Instant} (outside : now.inLeapSecond = false) (start : Instant) :
    (start.ago now = "just now" ↔ now ≤ start ∨ now - start < Elapsed.minute) ∧
    (start.ago now ≠ "just now" → ∃ unit n, (between start now).Shows unit n ∧ 1 ≤ n ∧
      (∀ most, unit.most? = some most → n ≤ most) ∧ start.ago now = unit.phrase n) ∧
    ∀ (unit : AgeUnit) (n : Int),
      (toString n ++ " " ++ unit.name).toList <+: (start.ago now).toList →
        1 ≤ n ∧ ∀ most, unit.most? = some most → n ≤ most := by
  have normal := normal_between start now
  have bounded {unit : AgeUnit} {n : Int} (shown : (between start now).Shows unit n) :
      1 ≤ n ∧ ∀ most, unit.most? = some most → n ≤ most := by
    by_cases past : start < now
    · obtain ⟨anchor, measured⟩ := measures_of_lt past
      exact measured.most_of_shows outside shown
    · rw [between_of_le (Instant.not_lt.1 past)] at shown
      exact absurd shown (not_shows_zero unit n)
  unfold Instant.ago
  refine ⟨?_, ?_, ?_⟩
  · rw [text_eq_justNow_iff normal]
    by_cases past : start < now
    · obtain ⟨anchor, measured⟩ := measures_of_lt past
      rw [measured.eq_zero_iff, or_iff_right (Instant.not_le.2 past)]
    · have reached := Instant.not_lt.1 past
      exact iff_of_true (between_of_le reached) (Or.inl reached)
  · intro differs
    rcases shows_or_eq_zero normal with ⟨unit, n, shown⟩ | zero
    · obtain ⟨one, most⟩ := bounded shown
      exact ⟨unit, n, shown, one, most, text_of_shows shown⟩
    · exact absurd ((text_eq_justNow_iff normal).2 zero) differs
  · intro unit n begins
    exact bounded (shows_of_prefix_text normal begins)

/-- Up to the last second of a month of 31 days it is thirty days ago. -/
theorem ago_largest_unit_thirty_days :
    let start : Instant :=
      { date := { year := 2023, month := 12, day := 31 }, second := 43200, nanos := 0 }
    let now : Instant :=
      { date := { year := 2024, month := 1, day := 31 }, second := 43199, nanos := 999999999 }
    now.inLeapSecond = false ∧ start.ago now = "30 days ago" ∧
      ∃ unit n, (between start now).Shows unit n ∧ 1 ≤ n ∧
        (∀ most, unit.most? = some most → n ≤ most) ∧ start.ago now = unit.phrase n := by
  intro start now
  have outside : now.inLeapSecond = false := by decide
  have age : between start now = { days := 30, hours := 23, minutes := 59 } := by decide
  have text : start.ago now = "30 days ago" := by
    unfold Instant.ago
    rw [age]
    rfl
  obtain ⟨-, shown, -⟩ := ago_largest_unit outside start
  exact ⟨outside, text, shown (by rw [text]; decide)⟩

end Age

end ReleaseSupport.Calendar
