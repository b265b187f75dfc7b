import Mathlib.Data.List.TakeDrop
import ReleaseSupport.Calendar.Stamp
import ReleaseSupport.Proofs.Calendar.Grammar
import ReleaseSupport.Proofs.Calendar.WholeDays

/-!
Written times. A timestamp is read as the beginning of the second that it was written for, in every
year, so an instant without a fraction of a second is read back from its timestamp.
-/

set_option autoImplicit false
set_option relaxedAutoImplicit false

namespace ReleaseSupport.Calendar

open ReleaseSupport.Text

namespace Instant

/-- The beginning of the second in which an instant lies, be it a leap second. -/
def secondStart (t : Instant) : Instant where
  date := t.date
  second := t.second
  nanos := t.nanos / 1000000000 * 1000000000
  second_lt := t.second_lt
  nanos_lt := by
    have h := t.nanos_lt
    omega

theorem secondStart_of_isWhole {t : Instant} (whole : t.IsWhole) : t.secondStart = t := by
  unfold IsWhole at whole
  refine Instant.ext rfl rfl ?_
  change t.nanos / 1000000000 * 1000000000 = t.nanos
  omega

end Instant

namespace Timestamp

theorem spacedNumeral_twoDigits {n : Nat} (short : n < 100) : SpacedNumeral (twoDigits n) n := by
  have digits : (Nat.toDigits 10 n).length ≤ 2 :=
    (Nat.length_toDigits_le_iff (by decide) (by decide)).2 short
  exact ⟨[], twoDigits n, rfl, by simp, isNumeral_paddedDigits 2 n,
    Nat.le_of_eq (length_paddedDigits digits)⟩

theorem spacedYear_yearText (y : Int) : SpacedYear (yearText y) y := by
  have blank : ∀ c ∈ ([] : List Char), isBlank c = true := by simp
  unfold yearText
  by_cases plain : 0 ≤ y ∧ y ≤ 9999
  · have digits : (Nat.toDigits 10 y.toNat).length ≤ 4 :=
      (Nat.length_toDigits_le_iff (by decide) (by decide)).2 (by omega)
    have written := SpacedYear.plain blank (isNumeral_paddedDigits 4 y.toNat)
      (Nat.le_of_eq (length_paddedDigits digits))
    rw [Int.toNat_of_nonneg plain.1] at written
    rw [if_pos plain]
    exact written
  · rw [if_neg plain]
    by_cases negative : y < 0
    · have written := SpacedYear.negative blank (isNumeral_paddedDigits 4 y.natAbs)
      rw [Int.ofNat_natAbs_of_nonpos (by omega), Int.neg_neg] at written
      rw [if_pos negative]
      exact written
    · have written := SpacedYear.positive blank (isNumeral_paddedDigits 4 y.natAbs)
      rw [Int.natAbs_of_nonneg (by omega)] at written
      rw [if_neg negative]
      exact written

/-- What the timestamp of an instant says. -/
def Reading.ofInstant (t : Instant) : Reading where
  date := t.date
  hour := t.second / 3600
  minute := t.second / 60 % 60
  second := t.second % 60 + t.nanos / 1000000000
  hour_le := by
    have bound := t.second_lt
    omega
  minute_le := by omega
  second_le := by
    have leap := t.nanos_lt
    omega

theorem Reading.instant_ofInstant (t : Instant) : (ofInstant t).instant = t.secondStart := by
  have bound := t.second_lt
  have leap := t.nanos_lt
  refine Instant.ext rfl ?_ ?_
  · show t.second / 3600 * 3600 + t.second / 60 % 60 * 60 +
      min (t.second % 60 + t.nanos / 1000000000) 59 = t.second
    omega
  · show (if t.second % 60 + t.nanos / 1000000000 = 60 then 1000000000 else 0) =
      t.nanos / 1000000000 * 1000000000
    split <;> omega

theorem Reading.writtenAs_timestampChars (t : Instant) :
    (ofInstant t).WrittenAs t.timestampChars := by
  have bound := t.second_lt
  have leap := t.nanos_lt
  have day : t.date.day ≤ 31 := Nat.le_trans t.date.day_le (daysInMonth_le _ _)
  have month := t.date.month_le
  refine ⟨yearText t.date.year, _, _, _, _, _, ?_, spacedYear_yearText _,
    spacedNumeral_twoDigits (n := t.date.month) (by omega),
    spacedNumeral_twoDigits (n := t.date.day) (by omega),
    spacedNumeral_twoDigits (n := t.second / 3600) (by omega),
    spacedNumeral_twoDigits (n := t.second / 60 % 60) (by omega),
    spacedNumeral_twoDigits (n := t.second % 60 + t.nanos / 1000000000) (by omega)⟩
  simp only [Instant.timestampChars, Date.chars, Instant.clockChars, List.append_assoc,
    List.cons_append]

/-- The timestamp of an instant is read as the beginning of its second. -/
theorem read_timestampChars (t : Instant) : read t.timestampChars = .ok t.secondStart := by
  rw [read_of_writtenAs (Reading.writtenAs_timestampChars t), Reading.instant_ofInstant]

/-- An instant without a fraction of a second is read back from its timestamp. -/
theorem ofText_timestamp {t : Instant} (whole : t.IsWhole) : ofText t.timestamp = .ok t := by
  rw [ofText, Instant.timestamp, String.toList_ofList, read_timestampChars,
    Instant.secondStart_of_isWhole whole]
  rfl

end Timestamp

namespace Instant

/-- The nanoseconds that a written fraction of a second stands for. -/
def fractionNanos (text : List Char) : Nat :=
  let value := Nat.ofDigitChars 10 text.tail 0
  if text.length = 4 then value * 1000000 else if text.length = 7 then value * 1000 else value

theorem fractionNanos_fractionChars (t : Instant) :
    fractionNanos t.fractionChars = t.nanos % 1000000000 := by
  have value {width n : Nat} (fits : (Nat.toDigits 10 n).length ≤ width) :
      fractionNanos ('.' :: paddedDigits width n) =
        if width = 3 then n * 1000000 else if width = 6 then n * 1000 else n := by
    simp only [fractionNanos, List.tail_cons, ofDigitChars_paddedDigits, List.length_cons,
      length_paddedDigits fits, Nat.reduceEqDiff]
  have bound : t.nanos % 1000000000 < 1000000000 := Nat.mod_lt _ (by decide)
  unfold fractionChars
  dsimp only
  generalize t.nanos % 1000000000 = fraction at *
  split
  case isTrue none =>
    rw [none]
    rfl
  split
  case isTrue milliseconds =>
    have fits : (Nat.toDigits 10 (fraction / 1000000)).length ≤ 3 :=
      (Nat.length_toDigits_le_iff (by decide) (by decide)).2 (by omega)
    rw [value fits, if_pos rfl]
    omega
  split
  case isTrue microseconds =>
    have fits : (Nat.toDigits 10 (fraction / 1000)).length ≤ 6 :=
      (Nat.length_toDigits_le_iff (by decide) (by decide)).2 (by omega)
    rw [value fits, if_neg (by decide), if_pos rfl]
    omega
  case isFalse =>
    have fits : (Nat.toDigits 10 fraction).length ≤ 9 :=
      (Nat.length_toDigits_le_iff (by decide) (by decide)).2 (by omega)
    rw [value fits, if_neg (by decide), if_neg (by decide)]

/-- Whether a character can stand in a time that is written in whole seconds, before its end. -/
def inSeconds (c : Char) : Bool := c.isDigit || ['-', '+', 'T', ':'].contains c

theorem all_inSeconds_of_digits {text : List Char} (h : ∀ c ∈ text, c.isDigit = true) :
    text.all inSeconds = true := by
  refine List.all_eq_true.2 fun c hc => ?_
  rw [inSeconds, h c hc, Bool.true_or]

theorem all_inSeconds_yearText (year : Int) : (yearText year).all inSeconds = true := by
  have digits (n : Nat) : (paddedDigits 4 n).all inSeconds = true :=
    all_inSeconds_of_digits fun _ => isDigit_of_mem_paddedDigits
  unfold yearText
  split
  · exact digits _
  · rw [List.all_cons, digits, Bool.and_true]
    split <;> decide

theorem all_inSeconds (t : Instant) :
    (t.date.chars ++ 'T' :: t.clockChars).all inSeconds = true := by
  have digits (n : Nat) : (twoDigits n).all inSeconds = true :=
    all_inSeconds_of_digits fun _ => isDigit_of_mem_paddedDigits
  simp only [Date.chars, clockChars, List.all_append, List.all_cons, all_inSeconds_yearText, digits]
  decide

theorem timestampChars_eq (t : Instant) :
    t.timestampChars = t.date.chars ++ 'T' :: t.clockChars ++ ['Z'] := rfl

theorem not_mem_timestampChars {c : Char} (h : inSeconds c = false) (ends : c ≠ 'Z')
    (t : Instant) : c ∉ t.timestampChars := by
  intro member
  rw [timestampChars_eq] at member
  rcases List.mem_append.1 member with inside | last
  · rw [List.all_eq_true.1 t.all_inSeconds c inside] at h
    cases h
  · exact ends (List.mem_singleton.1 last)

/-- The whole seconds of a stamp end where its fraction begins. -/
theorem span_stamp (t : Instant) :
    t.stamp.toList.span inSeconds =
      (t.date.chars ++ 'T' :: t.clockChars, t.fractionChars ++ ['Z']) := by
  have inside := List.all_eq_true.1 t.all_inSeconds
  have ended : (t.fractionChars ++ ['Z']).takeWhile inSeconds = [] ∧
      (t.fractionChars ++ ['Z']).dropWhile inSeconds = t.fractionChars ++ ['Z'] := by
    unfold fractionChars
    dsimp only
    repeat' split
    all_goals exact ⟨rfl, rfl⟩
  rw [stamp, String.toList_ofList, List.append_assoc, List.span_eq_takeWhile_dropWhile,
    List.takeWhile_append_of_pos inside, List.dropWhile_append_of_pos inside, ended.1, ended.2,
    List.append_nil]

theorem stamp_injective {a b : Instant} (same : a.stamp = b.stamp) : a = b := by
  have split : a.stamp.toList.span inSeconds = b.stamp.toList.span inSeconds := by rw [same]
  rw [span_stamp, span_stamp, Prod.mk.injEq, List.append_cancel_right_eq] at split
  obtain ⟨seconds, fraction⟩ := split
  have timestamps : a.timestampChars = b.timestampChars := by
    rw [timestampChars_eq, timestampChars_eq, seconds]
  have starts : a.secondStart = b.secondStart := by
    have read := Timestamp.read_timestampChars a
    rw [timestamps, Timestamp.read_timestampChars] at read
    exact (Except.ok.inj read).symm
  have nanos : a.nanos % 1000000000 = b.nanos % 1000000000 := by
    rw [← fractionNanos_fractionChars, fraction, fractionNanos_fractionChars]
  simp only [secondStart, Instant.mk.injEq] at starts
  obtain ⟨dates, times, units⟩ := starts
  exact Instant.ext dates times (by omega)

end Instant

end ReleaseSupport.Calendar
