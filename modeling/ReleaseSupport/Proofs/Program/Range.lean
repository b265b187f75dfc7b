import ReleaseSupport.Program
import ReleaseSupport.Proofs.Calendar.Age

/-!
Numbers stay in their range. The calendar is so short that any two of its instants are less than the
longest span apart and less than a word of months. Counting months down from their difference needs
no check for zero, and every count that it comes by can be added. The windows of a policy have so
few days that the command line cannot name too many.
-/

set_option autoImplicit false
set_option relaxedAutoImplicit false

namespace ReleaseSupport

namespace Calendar

/-- The first and the last day of the calendar. -/
theorem Date.dayNumber_bounds (d : Date) :
    -96465292 ≤ d.dayNumber ∧ d.dayNumber ≤ 95026236 := by
  have first := daysBeforeYear_mono d.firstYear_le
  have last := daysBeforeYear_mono (Int.add_le_add_right d.le_lastYear 1)
  have beforeFirst : daysBeforeYear firstYear - epochDays = -96465292 := by decide
  have afterLast : daysBeforeYear (lastYear + 1) - epochDays = 95026237 := by decide
  have months := daysInMonths_mono d.year d.month_le
  have year := daysBeforeYear_succ d.year
  rw [daysInMonths_twelve] at months
  have ends := d.dayNumber_lt_monthEnd
  have day := d.one_le_day
  constructor
  · unfold dayNumber
    omega
  · split at months <;> split at year <;> omega

/-- Whether a span can be represented. -/
def Elapsed.Representable (e : Elapsed) : Prop :=
  -longest ≤ e.nanoseconds ∧ e.nanoseconds ≤ longest

theorem Instant.representable_sub (a b : Instant) : (a - b).Representable := by
  have bound : Elapsed.longest = 9223372036854775807000000 := rfl
  have aDay := a.date.dayNumber_bounds
  have bDay := b.date.dayNumber_bounds
  have aSecond := a.second_lt
  have bSecond := b.second_lt
  have aNanos := a.nanos_lt
  have bNanos := b.nanos_lt
  have adjusted : -1 ≤ leapAdjustment a b ∧ leapAdjustment a b ≤ 1 := by
    unfold leapAdjustment
    split
    · omega
    · split <;> omega
  change -Elapsed.longest ≤ (sub a b).nanoseconds ∧ (sub a b).nanoseconds ≤ Elapsed.longest
  unfold sub
  dsimp only
  omega

namespace Age

variable {start now : Instant} {k : Int}

/-- The months that are added to a start to find its age: their difference first, and one less as
long as the count leads to no instant or past the present. Zero does not end the count. -/
inductive Counted (start now : Instant) : Int → Prop where
  | difference : Counted start now (monthDifference start.date now.date)
  | less {k : Int} (counted : Counted start now k)
    (past : ∀ anchor, start.addMonths? k.toNat = some anchor → now < anchor) :
    Counted start now (k - 1)

theorem monthDifference_bounds (h : start ≤ now) :
    0 ≤ monthDifference start.date now.date ∧
      monthDifference start.date now.date ≤ 2147483647 := by
  have ordered := Instant.monthNumber_le_of_le h
  have first := start.date.firstYear_le
  have last := now.date.le_lastYear
  have month := now.date.month_le
  have firstYear_eq : firstYear = -262143 := rfl
  have lastYear_eq : lastYear = 262142 := rfl
  rw [monthDifference_eq]
  unfold Date.monthNumber at ordered ⊢
  omega

/-- A count that leads past the present is not zero. -/
theorem pos_of_past (h : start < now) (nonneg : 0 ≤ k)
    (past : ∀ anchor, start.addMonths? k.toNat = some anchor → now < anchor) : 0 < k := by
  by_contra notPositive
  have zero : k.toNat = 0 := by omega
  have here := Instant.addMonths?_eq_some_iff.2 start.monthsAfter_zero
  rw [zero] at past
  exact Instant.not_le.2 (past start here) (Int.le_of_lt h)

/-- What is counted stays between zero and the difference. -/
theorem Counted.bounds (counted : Counted start now k) (h : start < now) :
    0 ≤ k ∧ k ≤ monthDifference start.date now.date := by
  induction counted with
  | difference => exact ⟨(monthDifference_bounds (Int.le_of_lt h)).1, Int.le_refl _⟩
  | less _ past ih =>
    have positive := pos_of_past h ih.1 past
    omega

theorem Counted.exists_anchor (counted : Counted start now k) (h : start < now) :
    ∃ anchor, start.addMonths? k.toNat = some anchor := by
  obtain ⟨nonneg, small⟩ := counted.bounds h
  rw [monthDifference_eq] at small
  have fits : start.date.monthNumber + k.toNat ≤ now.date.monthNumber := by omega
  obtain ⟨anchor, later⟩ := Instant.exists_monthsAfter fits
  exact ⟨anchor, Instant.addMonths?_eq_some_iff.2 later⟩

/-- The months of an age are the count that is not counted down any more. -/
theorem counted_wholeMonths {bound : Nat} (counted : Counted start now bound) :
    Counted start now (wholeMonths start now bound) := by
  induction bound with
  | zero => exact counted
  | succ bound ih =>
    have next (past : ∀ anchor, start.addMonths? (bound + 1) = some anchor → now < anchor) :
        Counted start now bound := by
      have less := counted.less past
      rwa [Int.natCast_succ, Int.add_sub_cancel] at less
    unfold wholeMonths
    cases added : start.addMonths? (bound + 1) with
    | none => exact ih (next fun anchor same => by rw [added] at same; cases same)
    | some anchor =>
      dsimp only
      split
      case isTrue past =>
        refine ih (next ?_)
        intro anchor' same
        obtain rfl := Option.some.inj (added.symm.trans same)
        exact past
      case isFalse => exact counted

end Age

end Calendar

namespace Program

open ReleaseSupport.Calendar
open ReleaseSupport.CommandLine

/-- No number of a run leaves its range. Whatever the command line accepts has windows that can be
represented, and they are those of the policy. Any two instants of the calendar are a representable
span apart. From an instant to a later one there is a count of months that is not negative and fits
into a word, and all months that are added to find its age, down to those that it has, are not
negative either, are not too many to be added, and lead to an instant. -/
theorem numbers_in_range :
    (∀ args s, parse args = .ok s →
      ∃ p, Policy.ofDays? s.maxAge.toNat s.patchWindow.toNat = some p ∧ (options s).policy = p) ∧
    ∀ start now : Instant,
      (now - start).Representable ∧
      (start < now →
        (0 ≤ Age.monthDifference start.date now.date ∧
          Age.monthDifference start.date now.date < 4294967296) ∧
        Age.Counted start now
          (Age.wholeMonths start now (Age.monthDifference start.date now.date).toNat) ∧
        ∀ k, Age.Counted start now k → 0 ≤ k ∧ k ≤ 2147483647 ∧
          ∃ anchor, start.addMonths? k.toNat = some anchor ∧ (now - anchor).Representable) := by
  constructor
  · intro args s accepted
    exact ⟨_, (Option.some_get (Policy.isSome_ofDays? s.maxAge s.patchWindow)).symm, rfl⟩
  intro start now
  refine ⟨Instant.representable_sub now start, ?_⟩
  intro earlier
  have difference := Age.monthDifference_bounds (Int.le_of_lt earlier)
  refine ⟨⟨difference.1, by omega⟩, Age.counted_wholeMonths ?_, ?_⟩
  · rw [Int.toNat_of_nonneg difference.1]
    exact .difference
  · intro k counted
    have bounds := counted.bounds earlier
    obtain ⟨anchor, added⟩ := counted.exists_anchor earlier
    exact ⟨bounds.1, by omega, anchor, added, Instant.representable_sub now anchor⟩

/-- The longest windows that the command line takes, and the first and the last instant of the
calendar, the latter in a leap second. -/
theorem numbers_in_range_at_both_ends :
    let args := ["-R", "a/b", "--max-age", "4294967295", "--patch-window", "4294967295"]
    let start : Instant :=
      { date := { year := -262143, month := 1, day := 1 }, second := 0, nanos := 0 }
    let now : Instant :=
      { date := { year := 262142, month := 12, day := 31 }, second := 86399, nanos := 1999999999 }
    (∃ s, parse args = .ok s ∧ s.maxAge = 4294967295 ∧ s.patchWindow = 4294967295 ∧
      ∃ p, Policy.ofDays? s.maxAge.toNat s.patchWindow.toNat = some p ∧ (options s).policy = p) ∧
    (now - start).Representable ∧ start < now ∧
    Age.monthDifference start.date now.date = 6291431 ∧
    ∃ anchor, start.addMonths? 6291431 = some anchor ∧ (now - anchor).Representable := by
  intro args start now
  obtain ⟨windows, instants⟩ := numbers_in_range
  obtain ⟨apart, later⟩ := instants start now
  have earlier : start < now := by decide +kernel
  have difference : Age.monthDifference start.date now.date = 6291431 := by decide +kernel
  obtain ⟨-, -, counts⟩ := later earlier
  obtain ⟨-, -, anchored⟩ := counts _ .difference
  rw [difference] at anchored
  have accepted : parse args =
      .ok ⟨["a/b"], false, false, false, false, none, 4294967295, 4294967295⟩ := by
    decide +kernel
  exact ⟨⟨_, accepted, rfl, rfl, windows _ _ accepted⟩, apart, earlier, difference, anchored⟩

end Program

end ReleaseSupport
