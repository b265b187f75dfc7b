import ReleaseSupport.Proofs.Calendar.Grammar

/-!
Windows of whole days. Differences of instants do not grow steadily: a leap second may count at once
and be taken back at the next midnight. Seen from an instant without a fraction of a second, as
every timestamp is, a window of whole days nevertheless ends once and for all, and it ends no
earlier for a later start.
-/

set_option autoImplicit false
set_option relaxedAutoImplicit false

namespace ReleaseSupport.Calendar

theorem Elapsed.nanoseconds_of_ofDays? {days : Int} {window : Elapsed}
    (h : ofDays? days = some window) : window.nanoseconds = days * 86400 * 1000000000 := by
  unfold ofDays? at h
  dsimp only at h
  split at h
  · cases h
    rfl
  · cases h

namespace Instant

/-- Whether an instant is the beginning of a second, be it a leap second. -/
def IsWhole (t : Instant) : Prop := t.nanos = 0 ∨ t.nanos = 1000000000

/-- The position at which an instant is so many days old. A midnight is that already in the leap
second before. -/
def dayMark (t : Instant) (days : Int) : Int :=
  (t.position + days * 86400 * 2000000000) - if t.second = 0 then 1000000000 else 0

/-- A window of whole days that starts at the beginning of a second is open exactly before the
position at which the start is so many days old. -/
theorem sub_lt_ofDays_iff {start now : Instant} (whole : start.IsWhole) {days : Int}
    {window : Elapsed} (h : Elapsed.ofDays? days = some window) :
    now - start < window ↔ now.position < start.dayMark days := by
  change (sub now start).nanoseconds < window.nanoseconds ↔ _
  rw [Elapsed.nanoseconds_of_ofDays? h]
  have nowSecond := now.second_lt
  have nowNanos := now.nanos_lt
  have startSecond := start.second_lt
  have startNanos := start.nanos_lt
  unfold IsWhole at whole
  unfold dayMark position sub leapAdjustment inLeapSecond
  generalize now.date.dayNumber = today
  generalize start.date.dayNumber = first
  simp only [decide_eq_true_eq]
  -- The second that a leap second adds or takes away carries no difference across whole days, as it
  -- comes in only between different times of the day. The nanoseconds of a leap second at the end
  -- of a day do carry it, if the start is a midnight.
  split
  case isTrue leapAtStart =>
    have notMidnight : start.second ≠ 0 := by omega
    rw [if_neg notMidnight]
    omega
  case isFalse =>
    split
    case isTrue leapNow =>
      split <;> omega
    case isFalse =>
      split <;> omega

theorem dayMark_mono {a b : Instant} (ha : a.IsWhole) (hb : b.IsWhole) (hab : a ≤ b) {m n : Int}
    (hmn : m ≤ n) : a.dayMark m ≤ b.dayMark n := by
  have aSecond := a.second_lt
  have bSecond := b.second_lt
  have aNanos := a.nanos_lt
  have bNanos := b.nanos_lt
  change a.position ≤ b.position at hab
  unfold IsWhole at ha hb
  unfold dayMark
  unfold position at hab ⊢
  split <;> split <;> omega

/-- A window of whole days that is open was open at any earlier time, and is open for any later
start and any longer window. -/
theorem sub_lt_of_sub_lt {start start' now now' : Instant} {days days' : Int}
    {window window' : Elapsed} (whole : start.IsWhole) (whole' : start'.IsWhole)
    (h : Elapsed.ofDays? days = some window) (h' : Elapsed.ofDays? days' = some window')
    (later : start ≤ start') (earlier : now' ≤ now) (longer : days ≤ days')
    (opened : now - start < window) : now' - start' < window' := by
  rw [sub_lt_ofDays_iff whole h] at opened
  rw [sub_lt_ofDays_iff whole' h']
  calc now'.position ≤ now.position := earlier
    _ < start.dayMark days := opened
    _ ≤ start'.dayMark days' := dayMark_mono whole whole' later longer

end Instant

namespace Timestamp

/-- A timestamp is read as the beginning of a second. -/
theorem isWhole_of_ofText {text : String} {t : Instant} (h : ofText text = .ok t) : t.IsWhole := by
  obtain ⟨r, -, rfl⟩ := ofText_eq_ok_iff.1 h
  show r.instant.nanos = 0 ∨ r.instant.nanos = 1000000000
  unfold Reading.instant
  dsimp only
  split
  · exact Or.inr rfl
  · exact Or.inl rfl

end Timestamp

end ReleaseSupport.Calendar
