import ReleaseSupport.Proofs.Calendar.AgeOrder
import ReleaseSupport.Proofs.Calendar.WholeDays

/-!
Ages only grow. Time since the beginning of a second may run back when the present leaves a leap
second, by at most one second, but never from one whole minute to the one before. So seen from an
instant without a fraction of a second, as every timestamp is, a later present shows no smaller age.
-/

set_option autoImplicit false
set_option relaxedAutoImplicit false

namespace ReleaseSupport.Calendar

namespace Instant

variable {start now now' : Instant}

/-- One in a leap second, else zero. -/
def leapCount (t : Instant) : Int := (t.nanos / 1000000000 : Nat)

theorem leapCount_cases (t : Instant) :
    t.leapCount = 0 ∨ t.leapCount = 1 ∧ t.second % 60 = 59 := by
  have nanos := t.nanos_lt
  unfold leapCount
  omega

theorem leapAdjustment_eq (a b : Instant) :
    leapAdjustment a b = if b.second < a.second then b.leapCount
      else if a.second < b.second then -a.leapCount else 0 := by
  have aNanos := a.nanos_lt
  have bNanos := b.nanos_lt
  unfold leapAdjustment inLeapSecond leapCount
  simp only [decide_eq_true_eq]
  by_cases later : b.second < a.second
  · rw [if_pos later]
    split
    · omega
    · rw [if_neg (by omega)]
      omega
  · rw [if_neg later, if_neg (fun h => later h.1)]
    by_cases earlier : a.second < b.second
    · rw [if_pos earlier]
      split <;> omega
    · rw [if_neg earlier, if_neg (fun h => earlier h.1)]

theorem leapCount_mono {a b : Instant} (h : a.nanos ≤ b.nanos) : a.leapCount ≤ b.leapCount :=
  Int.ofNat_le.2 (Nat.div_le_div_right h)

/-- The leap second of an instant as far as it counts in a difference with another one, which is
unless that is later in its day. -/
def leapAgainst (a b : Instant) : Int := if a.second < b.second then 0 else a.leapCount

section LeapAgainst

variable (a : Instant) {b b' : Instant}

theorem leapAgainst_of_lt (h : a.second < b.second) : a.leapAgainst b = 0 := if_pos h

theorem leapAgainst_of_le (h : b.second ≤ a.second) : a.leapAgainst b = a.leapCount :=
  if_neg (Nat.not_lt.2 h)

theorem leapAgainst_cases (b : Instant) : a.leapAgainst b = 0 ∨ a.leapAgainst b = a.leapCount := by
  by_cases h : a.second < b.second
  · exact Or.inl (a.leapAgainst_of_lt h)
  · exact Or.inr (a.leapAgainst_of_le (Nat.not_lt.1 h))

theorem leapAgainst_nonneg (b : Instant) : 0 ≤ a.leapAgainst b := by
  have leap := a.leapCount_cases
  have counted := a.leapAgainst_cases b
  omega

theorem leapAgainst_le_one (b : Instant) : a.leapAgainst b ≤ 1 := by
  have leap := a.leapCount_cases
  have counted := a.leapAgainst_cases b
  omega

/-- The later the other instant is in its day, the less counts. -/
theorem leapAgainst_antitone (h : b.second ≤ b'.second) : a.leapAgainst b' ≤ a.leapAgainst b := by
  by_cases before : a.second < b.second
  · rw [a.leapAgainst_of_lt before, a.leapAgainst_of_lt (Nat.lt_of_lt_of_le before h)]
  · rw [a.leapAgainst_of_le (Nat.not_lt.1 before)]
    have leap := a.leapCount_cases
    have counted := a.leapAgainst_cases b'
    omega

theorem leapAgainst_congr (h : b.second = b'.second) : a.leapAgainst b = a.leapAgainst b' := by
  unfold leapAgainst
  rw [h]

end LeapAgainst

/-- Of two instants in the same second of the day no less counts of the one with the greater
fraction. -/
theorem leapAgainst_mono {a b : Instant} (c : Instant) (second : a.second = b.second)
    (nanos : a.nanos ≤ b.nanos) : a.leapAgainst c ≤ b.leapAgainst c := by
  unfold leapAgainst
  rw [second]
  split
  · exact Int.le_refl _
  · exact leapCount_mono nanos

/-- The whole seconds since the beginning of a second are the difference of both times, each with
its leap second as far as it counts. -/
theorem wholeSeconds_sub (whole : start.IsWhole) (h : start ≤ now) :
    (now - start).wholeSeconds =
      now.unixSeconds + now.leapAgainst start - (start.unixSeconds + start.leapAgainst now) := by
  have nanos := now.nanos_lt
  unfold IsWhole at whole
  obtain ⟨short, spills⟩ := sub_nanoseconds h
  have forward : 0 ≤ (now - start).nanoseconds := by
    by_contra backward
    have fraction := (spills.1 (Int.not_le.1 backward)).earlierFraction
    omega
  rw [Elapsed.wholeSeconds_eq short, Int.max_eq_right forward]
  show (sub now start).nanoseconds / 1000000000 = _
  unfold sub unixSeconds leapAgainst
  dsimp only
  rw [leapAdjustment_eq]
  unfold leapCount
  split
  · rw [if_neg (by omega)]
    omega
  · split <;> omega

theorem wholeMinutes_sub (h : start ≤ now) :
    (now - start).wholeMinutes = (now - start).wholeSeconds / 60 := by
  obtain ⟨short, -⟩ := sub_nanoseconds h
  exact Int.tdiv_eq_ediv_of_nonneg (Elapsed.wholeSeconds_nonneg short)

/-- The whole seconds since the beginning of a second go back only at a midnight, from one leap
second to the day after another one, and then to a whole number of minutes. -/
theorem wholeSeconds_sub_le_or (whole : start.IsWhole) (h : start ≤ now) (later : now ≤ now') :
    (now - start).wholeSeconds ≤ (now' - start).wholeSeconds ∨
      (now - start).wholeSeconds = (now' - start).wholeSeconds + 1 ∧
        (now' - start).wholeSeconds % 60 = 0 := by
  rw [wholeSeconds_sub whole h, wholeSeconds_sub whole (le_trans h later)]
  have gained := now.leapAgainst_le_one start
  have gained' := now'.leapAgainst_nonneg start
  unfold unixSeconds
  rcases le_iff.1 later with day | ⟨day, forward | ⟨same, nanos⟩⟩
  · -- A second passes, and each leap second counts for one. Where both count, the first present is
    -- the last second of its day, and the start a leap second.
    have second := now.second_lt
    have startLeap := start.leapCount_cases
    have lost := start.leapAgainst_nonneg now
    have lost' := start.leapAgainst_cases now'
    omega
  · left
    have lost := start.leapAgainst_antitone (Nat.le_of_lt forward)
    omega
  · left
    have lost := start.leapAgainst_congr same
    have stays := leapAgainst_mono start same nanos
    omega

/-- Whole minutes since the beginning of a second never go back. -/
theorem wholeMinutes_sub_mono (whole : start.IsWhole) (h : start ≤ now) (later : now ≤ now') :
    (now - start).wholeMinutes ≤ (now' - start).wholeMinutes := by
  rw [wholeMinutes_sub h, wholeMinutes_sub (le_trans h later)]
  have seconds := wholeSeconds_sub_le_or whole h later
  omega

theorem MonthsAfter.isWhole {months : Nat} {t : Instant} (h : start.MonthsAfter months t)
    (whole : start.IsWhole) : t.IsWhole := by
  unfold IsWhole at whole ⊢
  rwa [h.nanos_eq]

end Instant

namespace Age

variable {start now now' : Instant}

/-- Seen from the beginning of a second, a later present shows no smaller age. -/
theorem between_le_of_later (whole : start.IsWhole) (later : now ≤ now') :
    between start now ≤ between start now' := by
  by_cases future : start ≤ now
  · obtain ⟨anchor, measured⟩ := exists_measures future
    obtain ⟨anchor', measured'⟩ := exists_measures (Instant.le_trans future later)
    rw [measured.toNormal.le_iff measured'.toNormal]
    have more : (between start now).monthCount ≤ (between start now').monthCount :=
      measured'.le_monthCount _ anchor measured.monthsAfter
        (Instant.le_trans measured.anchor_le later)
    rcases Nat.lt_or_eq_of_le more with more | same
    · exact Or.inl more
    · -- With the same number of months both ages have one anchor.
      obtain rfl : anchor = anchor' := measured.monthsAfter.unique (same ▸ measured'.monthsAfter)
      refine Or.inr ⟨same, ?_⟩
      rw [measured.minuteCount_eq, measured'.minuteCount_eq]
      exact Instant.wholeMinutes_sub_mono (measured.monthsAfter.isWhole whole) measured.anchor_le
        later
  · rw [between_of_le (Int.le_of_lt (Instant.not_le.1 future))]
    exact (normal_between start now').zero_le

/-- At the end of a leap second the time since another leap second runs back by a fraction, and the
age stays the same. -/
theorem between_le_of_later_after_leap_second :
    let start : Instant :=
      { date := { year := 2015, month := 6, day := 30 }, second := 86399, nanos := 1000000000 }
    let now : Instant :=
      { date := { year := 2016, month := 12, day := 31 }, second := 86399, nanos := 1500000000 }
    let now' : Instant :=
      { date := { year := 2017, month := 1, day := 1 }, second := 0, nanos := 200000000 }
    start.IsWhole ∧ now ≤ now' ∧ now' - start < now - start ∧
      between start now' = { years := 1, months := 6, days := 1 } ∧
      between start now ≤ between start now' := by
  intro start now now'
  have whole : start.IsWhole := Or.inr rfl
  have later : now ≤ now' := by decide
  have age : between start now' = { years := 1, months := 6, days := 1 } := by decide
  exact ⟨whole, later, by decide, age, between_le_of_later whole later⟩

end Age

end ReleaseSupport.Calendar
