import ReleaseSupport.Text.Digit

/-!
Numerals: runs of ASCII digits, with or without leading zeros, and the numbers that they name.
-/

set_option autoImplicit false
set_option relaxedAutoImplicit false

namespace ReleaseSupport.Text

/-- Whether a text is a run of ASCII digits that names a number. -/
structure IsNumeral (digits : List Char) (n : Nat) : Prop where
  present : digits ≠ []
  ascii : ∀ c ∈ digits, c.isDigit = true
  value : Nat.ofDigitChars 10 digits 0 = n

theorem isNumeral_paddedDigits (width n : Nat) : IsNumeral (paddedDigits width n) n :=
  ⟨paddedDigits_ne_nil width n, fun _ => isDigit_of_mem_paddedDigits,
    ofDigitChars_paddedDigits width n⟩

theorem isNumeral_toDigits (n : Nat) : IsNumeral (Nat.toDigits 10 n) n :=
  ⟨Nat.toDigits_ne_nil, fun _ => Nat.isDigit_of_mem_toDigits (by decide) (by decide),
    Nat.ofDigitChars_ten_toDigits⟩

theorem isDigit_of_mem_repr {n : Nat} {c : Char} (h : c ∈ n.repr.toList) : c.isDigit = true := by
  rw [Nat.toList_repr] at h
  exact Nat.isDigit_of_mem_toDigits (by decide) (by decide) h

/-- A number is written with digits and perhaps a sign. -/
theorem isDigit_or_sign_of_mem_toString {n : Int} {c : Char} (h : c ∈ (toString n).toList) :
    c.isDigit = true ∨ c = '-' := by
  cases n with
  | ofNat m => exact Or.inl (isDigit_of_mem_repr h)
  | negSucc m =>
    change c ∈ ("-" ++ (m + 1).repr).toList at h
    rw [String.toList_append] at h
    rcases List.mem_append.1 h with sign | digit
    · exact Or.inr (List.mem_singleton.1 sign)
    · exact Or.inl (isDigit_of_mem_repr digit)

theorem natOfDigits?_eq_some_iff {digits : List Char} {n : Nat} :
    natOfDigits? digits = some n ↔
      (∀ c ∈ digits, c.isDigit = true) ∧ Nat.ofDigitChars 10 digits 0 = n := by
  unfold natOfDigits?
  rw [Option.ite_none_right_eq_some, Option.some.injEq, List.all_eq_true]

namespace IsNumeral

variable {digits : List Char} {n : Nat}

theorem exists_eq_cons (h : IsNumeral digits n) :
    ∃ c more, digits = c :: more ∧ c.isDigit = true := by
  obtain ⟨c, more, rfl⟩ := List.exists_cons_of_ne_nil h.present
  exact ⟨c, more, rfl, h.ascii c List.mem_cons_self⟩

end IsNumeral

end ReleaseSupport.Text
