import ReleaseSupport.Version
import ReleaseSupport.Proofs.Text.Numeral

/-!
Tags of versions. A tag names a version exactly if it begins with `v` and three numerals joined by
points, none of them of more than 64 bits, with no further decimal digit of any script after the
last. A version is read back from its text, whatever follows that is no digit.
-/

set_option autoImplicit false
set_option relaxedAutoImplicit false

namespace ReleaseSupport.Version

open ReleaseSupport.Text

variable {text rest : List Char} {n : UInt64} {v : Version}

/-- Whether a text does not begin with a decimal digit of any script. -/
def NoDigitFirst (text : List Char) : Prop := ∀ c ∈ text.head?, isDecimalDigit c = false

/-- Whether a tag begins with `v` and the three numbers of a version, joined by points. -/
def SpelledBy (v : Version) (tag : List Char) : Prop :=
  ∃ major minor patch rest,
    tag = 'v' :: (major ++ '.' :: (minor ++ '.' :: (patch ++ rest))) ∧
    IsNumeral major v.major.toNat ∧ IsNumeral minor v.minor.toNat ∧
    IsNumeral patch v.patch.toNat ∧ NoDigitFirst rest

/-- Digits that no further digit follows are all that is taken off the front of a text. -/
theorem span_append_of_noDigitFirst {digits : List Char}
    (ascii : ∀ c ∈ digits, c.isDigit = true) (ended : NoDigitFirst rest) :
    (digits ++ rest).takeWhile isDecimalDigit = digits ∧
      (digits ++ rest).dropWhile isDecimalDigit = rest := by
  have decimal : ∀ c ∈ digits, isDecimalDigit c = true := by
    intro c member
    exact isDecimalDigit_of_isDigit (ascii c member)
  have stopped : rest.takeWhile isDecimalDigit = [] ∧ rest.dropWhile isDecimalDigit = rest := by
    cases rest with
    | nil => exact ⟨rfl, rfl⟩
    | cons c rest =>
      have first : isDecimalDigit c = false := ended c rfl
      simp [first]
  rw [List.takeWhile_append_of_pos decimal, List.dropWhile_append_of_pos decimal, stopped.1,
    stopped.2, List.append_nil]
  exact ⟨rfl, rfl⟩

theorem component?_eq_some_iff_takeWhile :
    component? text = some (n, rest) ↔
      IsNumeral (text.takeWhile isDecimalDigit) n.toNat ∧
        text.dropWhile isDecimalDigit = rest := by
  have dropped : text.drop (text.takeWhile isDecimalDigit).length =
      text.dropWhile isDecimalDigit := by
    have cut : (text.takeWhile isDecimalDigit ++ text.dropWhile isDecimalDigit).drop
        (text.takeWhile isDecimalDigit).length = text.dropWhile isDecimalDigit := List.drop_left
    rwa [List.takeWhile_append_dropWhile] at cut
  -- The two conditions, spelled out.
  change ((if text.takeWhile isDecimalDigit ≠ [] then some () else none).bind fun _ =>
    (natOfDigits? (text.takeWhile isDecimalDigit)).bind fun value =>
      (if value < UInt64.size then some () else none).bind fun _ =>
        some (UInt64.ofNat value, text.drop (text.takeWhile isDecimalDigit).length)) =
    some (n, rest) ↔ _
  simp only [Option.bind_eq_some_iff, natOfDigits?_eq_some_iff, Option.ite_none_right_eq_some,
    Option.some.injEq, Prod.mk.injEq, and_true, exists_const, dropped]
  constructor
  · rintro ⟨present, value, ⟨ascii, rfl⟩, small, rfl, same⟩
    exact ⟨⟨present, ascii, (UInt64.toNat_ofNat_of_lt' small).symm⟩, same⟩
  · rintro ⟨⟨present, ascii, value⟩, same⟩
    exact ⟨present, n.toNat, ⟨ascii, value⟩, n.toNat_lt_size, UInt64.ofNat_toNat, same⟩

/-- The digits at the start of a text are read as one number, all of them. -/
theorem component?_eq_some_iff :
    component? text = some (n, rest) ↔
      ∃ digits, text = digits ++ rest ∧ IsNumeral digits n.toNat ∧ NoDigitFirst rest := by
  rw [component?_eq_some_iff_takeWhile]
  constructor
  · rintro ⟨numeral, rfl⟩
    refine ⟨_, List.takeWhile_append_dropWhile.symm, numeral, ?_⟩
    intro c first
    have stopped := List.head?_dropWhile_not isDecimalDigit text
    rwa [Option.mem_def.1 first] at stopped
  · rintro ⟨digits, rfl, numeral, ended⟩
    obtain ⟨taken, dropped⟩ := span_append_of_noDigitFirst numeral.ascii ended
    rw [taken, dropped]
    exact ⟨numeral, rfl⟩

theorem after?_eq_some_iff {c : Char} : after? c text = some rest ↔ text = c :: rest := by
  cases text with
  | nil => simp [after?]
  | cons d text => simp [after?]

theorem noDigitFirst_point (text : List Char) : NoDigitFirst ('.' :: text) := by
  intro c first
  obtain rfl := Option.some.inj first
  decide

/-- A tag is read as a version exactly if it spells that version. -/
theorem ofChars?_eq_some_iff : ofChars? text = some v ↔ SpelledBy v text := by
  simp only [ofChars?, Option.bind_eq_bind, Option.bind_eq_some_iff, Option.pure_def,
    Option.some.injEq, Prod.exists, after?_eq_some_iff, component?_eq_some_iff]
  constructor
  · rintro ⟨_, rfl, major, _, ⟨majors, rfl, isMajor, -⟩, _, rfl, minor, _,
      ⟨minors, rfl, isMinor, -⟩, _, rfl, patch, rest, ⟨patches, rfl, isPatch, ended⟩, rfl⟩
    exact ⟨majors, minors, patches, rest, rfl, isMajor, isMinor, isPatch, ended⟩
  · rintro ⟨majors, minors, patches, rest, rfl, isMajor, isMinor, isPatch, ended⟩
    exact ⟨_, rfl, v.major, _, ⟨majors, rfl, isMajor, noDigitFirst_point _⟩, _, rfl, v.minor, _,
      ⟨minors, rfl, isMinor, noDigitFirst_point _⟩, _, rfl, v.patch, rest,
      ⟨patches, rfl, isPatch, ended⟩, rfl⟩

theorem head?_of_ofChars? (named : ofChars? text = some v) : text.head? = some 'v' := by
  obtain ⟨_, _, _, _, spelled, -⟩ := ofChars?_eq_some_iff.1 named
  rw [spelled, List.head?_cons]

theorem toList_text (v : Version) :
    v.text.toList = 'v' :: (Nat.toDigits 10 v.major.toNat ++
      '.' :: (Nat.toDigits 10 v.minor.toNat ++ '.' :: Nat.toDigits 10 v.patch.toNat)) := by
  simp [Version.text, toString]

/-- The text of a version spells it, also at the front of a longer tag. -/
theorem spelledBy_text_append (v : Version) {suffix : List Char} (ended : NoDigitFirst suffix) :
    SpelledBy v (v.text.toList ++ suffix) := by
  refine ⟨_, _, _, suffix, ?_, isNumeral_toDigits _, isNumeral_toDigits _, isNumeral_toDigits _,
    ended⟩
  rw [toList_text]
  simp only [List.cons_append, List.append_assoc]

theorem ofTag?_eq_some_iff {tag : String} : ofTag? tag = some v ↔ SpelledBy v tag.toList :=
  ofChars?_eq_some_iff

/-- A tag names a version exactly if it spells one, and no other. The text of a version names it,
and still does if anything follows that does not begin with a decimal digit. So no two versions have
the same text. -/
theorem ofTag?_spelled :
    (∀ tag v, ofTag? tag = some v ↔ SpelledBy v tag.toList) ∧
    (∀ tag, ofTag? tag = none ↔ ¬ ∃ v, SpelledBy v tag.toList) ∧
    (∀ (v : Version) (suffix : String), NoDigitFirst suffix.toList →
      ofTag? (v.text ++ suffix) = some v) ∧
    ∀ v w : Version, v.text = w.text → v = w := by
  refine ⟨fun _ _ => ofTag?_eq_some_iff, ?_, ?_, ?_⟩
  · intro tag
    simp only [← ofTag?_eq_some_iff, Option.eq_none_iff_forall_ne_some, not_exists, ne_eq]
  · intro v suffix ended
    rw [ofTag?_eq_some_iff, String.toList_append]
    exact spelledBy_text_append v ended
  · intro v w same
    have read (u : Version) : ofTag? u.text = some u := by
      have ended : NoDigitFirst [] := by simp [NoDigitFirst]
      have spelled := spelledBy_text_append u ended
      rwa [List.append_nil, ← ofTag?_eq_some_iff] at spelled
    have first := read v
    rw [same, read w] at first
    exact (Option.some.inj first).symm

end ReleaseSupport.Version
