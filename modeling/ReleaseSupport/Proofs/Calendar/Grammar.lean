import ReleaseSupport.Calendar.Timestamp
import ReleaseSupport.Proofs.Calendar.Months
import ReleaseSupport.Proofs.Refusal
import ReleaseSupport.Proofs.Text.Numeral

/-!
The grammar of timestamps. A text is read exactly if it is a year, a month, a day, an hour, a minute
and a second with their marks and `Z` at the end, where white space may stand before each number,
and these numbers name a date of the calendar and a time of the day.
-/

set_option autoImplicit false
set_option relaxedAutoImplicit false

namespace ReleaseSupport.Calendar.Timestamp

open ReleaseSupport.Text

variable {text rest piece : List Char}

/-- Whether a text is a number of one or two digits, with or without white space before it. -/
def SpacedNumeral (text : List Char) (n : Nat) : Prop :=
  ∃ blanks digits, text = blanks ++ digits ∧ (∀ c ∈ blanks, isBlank c = true) ∧
    IsNumeral digits n ∧ digits.length ≤ 2

/-- A year as it is written, with or without white space before it: up to four digits, or a sign and
any number of digits. -/
inductive SpacedYear : List Char → Int → Prop
  | plain {blanks digits : List Char} {n : Nat} (blank : ∀ c ∈ blanks, isBlank c = true)
    (numeral : IsNumeral digits n) (short : digits.length ≤ 4) : SpacedYear (blanks ++ digits) n
  | positive {blanks digits : List Char} {n : Nat} (blank : ∀ c ∈ blanks, isBlank c = true)
    (numeral : IsNumeral digits n) : SpacedYear (blanks ++ '+' :: digits) n
  | negative {blanks digits : List Char} {n : Nat} (blank : ∀ c ∈ blanks, isBlank c = true)
    (numeral : IsNumeral digits n) : SpacedYear (blanks ++ '-' :: digits) (-n)

/-- What a timestamp says: a date of the calendar and a time of the day, in which second 60 is the
leap second after second 59. -/
structure Reading where
  date : Date
  hour : Nat
  minute : Nat
  second : Nat
  hour_le : hour ≤ 23
  minute_le : minute ≤ 59
  second_le : second ≤ 60

namespace Reading

/-- Whether a text is a timestamp that says so. -/
def WrittenAs (r : Reading) (text : List Char) : Prop :=
  ∃ year month day hour minute second,
    text = year ++ '-' :: (month ++ '-' :: (day ++ 'T' :: (hour ++ ':' :: (minute ++
      ':' :: (second ++ ['Z']))))) ∧
    SpacedYear year r.date.year ∧ SpacedNumeral month r.date.month ∧
    SpacedNumeral day r.date.day ∧ SpacedNumeral hour r.hour ∧ SpacedNumeral minute r.minute ∧
    SpacedNumeral second r.second

def instant (r : Reading) : Instant where
  date := r.date
  second := r.hour * 3600 + r.minute * 60 + min r.second 59
  nanos := if r.second = 60 then 1000000000 else 0
  second_lt := by
    have hour := r.hour_le
    have minute := r.minute_le
    omega
  nanos_lt := by
    split
    · right
      omega
    · left
      decide

end Reading

theorem mark_eq_ok_iff {m : Char} : mark m text = .ok rest ↔ text = m :: rest := by
  cases text with
  | nil => simp [mark]
  | cons c text =>
    by_cases same : c = m
    · simp [mark, same]
    · simp [mark, same]

theorem trimStart_append {blanks : List Char} (blank : ∀ c ∈ blanks, isBlank c = true)
    (rest : List Char) : trimStart (blanks ++ rest) = trimStart rest :=
  List.dropWhile_append_of_pos blank

theorem exists_trimStart (text : List Char) :
    ∃ blanks, text = blanks ++ trimStart text ∧ ∀ c ∈ blanks, isBlank c = true :=
  ⟨text.takeWhile isBlank, List.takeWhile_append_dropWhile.symm,
    List.all_eq_true.1 List.all_takeWhile⟩

theorem trimStart_cons {c : Char} (h : isBlank c = false) (rest : List Char) :
    trimStart (c :: rest) = c :: rest := by
  rw [trimStart, List.dropWhile_cons_of_neg]
  simp [h]

theorem trimStart_numeral {digits : List Char} {n : Nat} (numeral : IsNumeral digits n)
    (rest : List Char) : trimStart (digits ++ rest) = digits ++ rest := by
  obtain ⟨c, more, rfl, digit⟩ := numeral.exists_eq_cons
  exact trimStart_cons (isBlank_of_isDigit digit) _

/-- A number that is read is a numeral at the front of the text. -/
theorem isNumeral_of_number {width n : Nat} (wide : text ≠ [] → 0 < width)
    (h : number width text = .ok (n, rest)) :
    ∃ digits, text = digits ++ rest ∧ IsNumeral digits n ∧ digits.length ≤ width := by
  cases text with
  | nil => cases h
  | cons c more =>
    by_cases digit : c.isDigit = true
    · simp only [number, if_pos digit, Except.ok.injEq, Prod.mk.injEq] at h
      obtain ⟨rfl, rfl⟩ := h
      have front : ((c :: more).take width).takeWhile Char.isDigit <+: c :: more :=
        (List.takeWhile_prefix _).trans (List.take_prefix _ _)
      refine ⟨_, (List.prefix_iff_eq_append.1 front).symm, ⟨?_, ?_, rfl⟩, ?_⟩
      · obtain ⟨w, rfl⟩ := Nat.exists_eq_add_of_le' (wide (by simp))
        simp [digit]
      · exact List.all_eq_true.1 List.all_takeWhile
      · exact Nat.le_trans (List.takeWhile_prefix _).length_le (List.length_take_le _ _)
    · simp only [number, if_neg digit, reduceCtorEq] at h

/-- A numeral that fits and is not followed by another digit is read as its number. -/
theorem number_append {width n : Nat} {digits : List Char} {m : Char}
    (numeral : IsNumeral digits n) (fits : digits.length ≤ width) (ends : m.isDigit = false)
    (rest : List Char) : number width (digits ++ m :: rest) = .ok (n, m :: rest) := by
  -- Whether or not the width lets in more than the digits, what follows them is no digit.
  have taken : ((digits ++ m :: rest).take width).takeWhile Char.isDigit = digits := by
    rw [List.take_append, List.take_of_length_le fits, List.takeWhile_append_of_pos numeral.ascii]
    cases width - digits.length <;> simp [ends]
  obtain ⟨c, more, rfl, digit⟩ := numeral.exists_eq_cons
  rw [List.cons_append] at taken ⊢
  simp only [number, if_pos digit, taken, numeral.value]
  simp

theorem spacedNumeral_of_field {low high n : Nat} (h : field low high text = .ok (n, rest)) :
    (low ≤ n ∧ n ≤ high) ∧ ∃ piece, text = piece ++ rest ∧ SpacedNumeral piece n := by
  obtain ⟨⟨m, rest'⟩, found, checked⟩ := bind_eq_ok_iff.1 h
  dsimp only at checked
  by_cases inside : low ≤ m ∧ m ≤ high
  · rw [if_pos inside] at checked
    cases checked
    obtain ⟨blanks, split, blank⟩ := exists_trimStart text
    obtain ⟨digits, trimmed, numeral, short⟩ := isNumeral_of_number (fun _ => by decide) found
    refine ⟨inside, blanks ++ digits, ?_, blanks, digits, rfl, blank, numeral, short⟩
    rw [split, trimmed, List.append_assoc]
  · rw [if_neg inside] at checked
    cases checked

theorem field_append {low high n : Nat} {m : Char} (spaced : SpacedNumeral piece n)
    (lower : low ≤ n) (upper : n ≤ high) (ends : m.isDigit = false) (rest : List Char) :
    field low high (piece ++ m :: rest) = .ok (n, m :: rest) := by
  obtain ⟨blanks, digits, rfl, blank, numeral, short⟩ := spaced
  rw [field, List.append_assoc, trimStart_append blank, trimStart_numeral numeral,
    number_append numeral short ends]
  exact if_pos ⟨lower, upper⟩

/-- Reads the digits of a year, with a bound on their number, and gives the year its sign. -/
def yearDigits (sign : Nat → Int) (width : Nat) (text : List Char) :
    Except Fault (Int × List Char) := do
  let (n, rest) ← number width text
  checkedYear (sign n) rest

theorem year_eq (text : List Char) :
    year text =
      match trimStart text with
      | '-' :: after => yearDigits (fun n => -n) after.length after
      | '+' :: after => yearDigits (fun n => n) after.length after
      | trimmed => yearDigits (fun n => n) 4 trimmed := rfl

theorem isNumeral_of_yearDigits {sign : Nat → Int} {width : Nat} {y : Int}
    (wide : text ≠ [] → 0 < width) (h : yearDigits sign width text = .ok (y, rest)) :
    ∃ digits n, text = digits ++ rest ∧ IsNumeral digits n ∧ digits.length ≤ width ∧
      sign n = y := by
  obtain ⟨⟨n, rest'⟩, found, checked⟩ := bind_eq_ok_iff.1 h
  obtain ⟨digits, rfl, numeral, short⟩ := isNumeral_of_number wide found
  dsimp only at checked
  unfold checkedYear at checked
  split at checked
  · cases checked
    exact ⟨digits, n, rfl, numeral, short, rfl⟩
  · cases checked

theorem yearDigits_append (sign : Nat → Int) {width n : Nat} {digits : List Char} {m : Char}
    (numeral : IsNumeral digits n) (fits : digits.length ≤ width) (lower : firstYear ≤ sign n)
    (upper : sign n ≤ lastYear) (ends : m.isDigit = false) (rest : List Char) :
    yearDigits sign width (digits ++ m :: rest) = .ok (sign n, m :: rest) := by
  unfold firstYear at lower
  unfold lastYear at upper
  unfold yearDigits
  rw [number_append numeral fits ends]
  exact if_pos (by omega)

theorem spacedYear_of_year {y : Int} (h : year text = .ok (y, rest)) :
    ∃ piece, text = piece ++ rest ∧ SpacedYear piece y := by
  obtain ⟨blanks, split, blank⟩ := exists_trimStart text
  rw [split]
  rw [year_eq] at h
  split at h
  case h_1 after same =>
    obtain ⟨digits, n, rfl, numeral, -, rfl⟩ := isNumeral_of_yearDigits List.length_pos_iff.2 h
    exact ⟨blanks ++ '-' :: digits, by rw [same]; simp, .negative blank numeral⟩
  case h_2 after same =>
    obtain ⟨digits, n, rfl, numeral, -, rfl⟩ := isNumeral_of_yearDigits List.length_pos_iff.2 h
    exact ⟨blanks ++ '+' :: digits, by rw [same]; simp, .positive blank numeral⟩
  case h_3 =>
    obtain ⟨digits, n, same, numeral, short, rfl⟩ := isNumeral_of_yearDigits (fun _ => by decide) h
    exact ⟨blanks ++ digits, by rw [same]; simp, .plain blank numeral short⟩

theorem year_append {y : Int} {m : Char} (spaced : SpacedYear piece y) (lower : firstYear ≤ y)
    (upper : y ≤ lastYear) (ends : m.isDigit = false) (rest : List Char) :
    year (piece ++ m :: rest) = .ok (y, m :: rest) := by
  have fits (digits : List Char) : digits.length ≤ (digits ++ m :: rest).length := by simp
  rw [year_eq]
  cases spaced with
  | @plain blanks digits n blank numeral short =>
    rw [List.append_assoc, trimStart_append blank, trimStart_numeral numeral]
    obtain ⟨c, more, rfl, digit⟩ := numeral.exists_eq_cons
    split
    case h_1 same =>
      obtain ⟨rfl, -⟩ := List.cons.inj same
      cases digit
    case h_2 same =>
      obtain ⟨rfl, -⟩ := List.cons.inj same
      cases digit
    case h_3 => exact yearDigits_append _ numeral short lower upper ends rest
  | @positive blanks digits n blank numeral =>
    rw [List.append_assoc, trimStart_append blank, List.cons_append, trimStart_cons (by decide)]
    exact yearDigits_append _ numeral (fits digits) lower upper ends rest
  | @negative blanks digits n blank numeral =>
    rw [List.append_assoc, trimStart_append blank, List.cons_append, trimStart_cons (by decide)]
    exact yearDigits_append (fun n => -n) numeral (fits digits) lower upper ends rest

theorem instant?_reading (r : Reading) :
    instant? r.date r.hour r.minute r.second = some r.instant := by
  have found := Instant.of?_second_nanos r.instant
  have le := r.second_le
  unfold instant?
  by_cases leap : r.second = 60
  · have second : r.instant.second = r.hour * 3600 + r.minute * 60 + 59 := by
      show r.hour * 3600 + r.minute * 60 + min r.second 59 = _
      omega
    have nanos : r.instant.nanos = 1000000000 := if_pos leap
    rw [second, nanos] at found
    rw [if_pos leap]
    exact found
  · have second : r.instant.second = r.hour * 3600 + r.minute * 60 + r.second := by
      show r.hour * 3600 + r.minute * 60 + min r.second 59 = _
      omega
    have nanos : r.instant.nanos = 0 := if_neg leap
    rw [second, nanos] at found
    rw [if_neg leap]
    exact found

theorem read_of_writtenAs {r : Reading} (h : r.WrittenAs text) : read text = .ok r.instant := by
  obtain ⟨year, month, day, hour, minute, second, rfl, isYear, isMonth, isDay, isHour, isMinute,
    isSecond⟩ := h
  have dayLe : r.date.day ≤ 31 := Nat.le_trans r.date.day_le (daysInMonth_le _ _)
  unfold read
  refine bind_eq_ok_iff.2
    ⟨_, year_append isYear r.date.firstYear_le r.date.le_lastYear (by decide) _, ?_⟩
  refine bind_eq_ok_iff.2 ⟨_, mark_eq_ok_iff.2 rfl, ?_⟩
  refine bind_eq_ok_iff.2
    ⟨_, field_append isMonth r.date.one_le_month r.date.month_le (by decide) _, ?_⟩
  refine bind_eq_ok_iff.2 ⟨_, mark_eq_ok_iff.2 rfl, ?_⟩
  refine bind_eq_ok_iff.2 ⟨_, field_append isDay r.date.one_le_day dayLe (by decide) _, ?_⟩
  refine bind_eq_ok_iff.2 ⟨_, mark_eq_ok_iff.2 rfl, ?_⟩
  refine bind_eq_ok_iff.2
    ⟨_, field_append isHour (Nat.zero_le _) r.hour_le (by decide) _, ?_⟩
  refine bind_eq_ok_iff.2 ⟨_, mark_eq_ok_iff.2 rfl, ?_⟩
  refine bind_eq_ok_iff.2
    ⟨_, field_append isMinute (Nat.zero_le _) r.minute_le (by decide) _, ?_⟩
  refine bind_eq_ok_iff.2 ⟨_, mark_eq_ok_iff.2 rfl, ?_⟩
  refine bind_eq_ok_iff.2
    ⟨_, field_append isSecond (Nat.zero_le _) r.second_le (by decide) _, ?_⟩
  refine bind_eq_ok_iff.2 ⟨_, mark_eq_ok_iff.2 rfl, ?_⟩
  simp only [Date.of?_year_month_day, instant?_reading]

theorem writtenAs_of_read {t : Instant} (h : read text = .ok t) :
    ∃ r : Reading, r.WrittenAs text ∧ r.instant = t := by
  unfold read at h
  simp only [bind_eq_ok_iff, Prod.exists, mark_eq_ok_iff] at h
  obtain ⟨year, _, readYear, _, rfl, month, _, readMonth, _, rfl, day, _, readDay, _, rfl,
    hour, _, readHour, _, rfl, minute, _, readMinute, _, rfl, second, _, readSecond, rest, rfl,
    ending⟩ := h
  obtain ⟨years, rfl, isYear⟩ := spacedYear_of_year readYear
  obtain ⟨-, months, rfl, isMonth⟩ := spacedNumeral_of_field readMonth
  obtain ⟨-, days, rfl, isDay⟩ := spacedNumeral_of_field readDay
  obtain ⟨⟨-, hourLe⟩, hours, rfl, isHour⟩ := spacedNumeral_of_field readHour
  obtain ⟨⟨-, minuteLe⟩, minutes, rfl, isMinute⟩ := spacedNumeral_of_field readMinute
  obtain ⟨⟨-, secondLe⟩, seconds, rfl, isSecond⟩ := spacedNumeral_of_field readSecond
  cases rest with
  | cons c rest => cases ending
  | nil =>
    cases dated : Date.of? year month day with
    | none =>
      rw [dated] at ending
      cases ending
    | some date =>
      obtain ⟨rfl, rfl, rfl⟩ := Date.of?_eq_some_iff.1 dated
      rw [dated] at ending
      have timed := instant?_reading ⟨date, hour, minute, second, hourLe, minuteLe, secondLe⟩
      dsimp only at timed ending
      rw [timed] at ending
      cases ending
      exact ⟨⟨date, hour, minute, second, hourLe, minuteLe, secondLe⟩,
        ⟨years, months, days, hours, minutes, seconds, rfl, isYear, isMonth, isDay, isHour,
          isMinute, isSecond⟩, rfl⟩

theorem ofText_eq_ok_iff {text : String} {t : Instant} :
    ofText text = .ok t ↔ ∃ r : Reading, r.WrittenAs text.toList ∧ r.instant = t := by
  rw [ofText, mapError_eq_ok_iff]
  constructor
  · exact writtenAs_of_read
  · rintro ⟨r, written, rfl⟩
    exact read_of_writtenAs written

/-- A text is a timestamp exactly if it is written as one, and it is read as the instant that it
says. -/
theorem ofText_writtenAs (text : String) :
    ((∃ t, ofText text = .ok t) ↔ ∃ r : Reading, r.WrittenAs text.toList) ∧
    ∀ t, ofText text = .ok t ↔ ∃ r : Reading, r.WrittenAs text.toList ∧ r.instant = t := by
  refine ⟨?_, fun t => ofText_eq_ok_iff⟩
  simp only [ofText_eq_ok_iff]
  constructor
  · rintro ⟨t, r, written, -⟩
    exact ⟨r, written⟩
  · rintro ⟨r, written⟩
    exact ⟨r.instant, r, written, rfl⟩

/-- White space may stand before any number, and second 60 is a leap second in any minute. -/
example : ofText "+02016-1- 9T3:04:60Z" =
    .ok { date := { year := 2016, month := 1, day := 9 }, second := 11099, nanos := 1000000000 } :=
  rfl

end ReleaseSupport.Calendar.Timestamp
