import ReleaseSupport.Text.Utf8

/-!
UTF-8 there and back. The bytes of a character are read as that character and leave the reader
between two characters, so every text is read back from its bytes.
-/

set_option autoImplicit false
set_option relaxedAutoImplicit false

namespace ReleaseSupport.Text.Utf8

theorem toNat_ofNat {n : Nat} (h : n < 256) : (UInt8.ofNat n).toNat = n :=
  UInt8.toNat_ofNat_of_lt h

/-- Whether the byte with these six low bits lies in a range of bytes that may come next. -/
structure InRange (low high : UInt8) (k : Nat) : Prop where
  lt : k < 64
  lower : low.toNat ≤ k + 0x80
  upper : k + 0x80 ≤ high.toNat

theorem inRange_any {k : Nat} (h : k < 64) : InRange 0x80 0xBF k where
  lt := h
  lower := by
    change 0x80 ≤ k + 0x80
    omega
  upper := by
    change k + 0x80 ≤ 0xBF
    omega

section

variable {low high : UInt8} {k : Nat}

/-- A byte in the range that is waited for adds its six low bits. -/
theorem step_inside (h : InRange low high k) (bits missing : Nat) :
    State.step (UInt8.ofNat (k + 0x80)) (.inside bits missing low high) =
      match missing with
      | 0 => ([Char.ofNat (bits * 64 + k)], .start)
      | more + 1 => ([], .inside (bits * 64 + k) more 0x80 0xBF) := by
  have small := h.lt
  have value : (UInt8.ofNat (k + 0x80)).toNat = k + 0x80 := toNat_ofNat (by omega)
  have long : ¬ UInt8.ofNat (k + 0x80) < 0x80 := by
    rw [UInt8.lt_iff_toNat_lt, value]
    change ¬ k + 0x80 < 0x80
    omega
  have within : low ≤ UInt8.ofNat (k + 0x80) ∧ UInt8.ofNat (k + 0x80) ≤ high := by
    rw [UInt8.le_iff_toNat_le, UInt8.le_iff_toNat_le, value]
    exact ⟨h.lower, h.upper⟩
  cases missing with
  | zero => simp only [State.step, if_neg long, if_pos within, value, Nat.add_sub_cancel]
  | succ more => simp only [State.step, if_neg long, if_pos within, value, Nat.add_sub_cancel]

theorem decodeFrom_last (h : InRange low high k) (bits : Nat) (bytes : List UInt8) :
    decodeFrom (.inside bits 0 low high) (UInt8.ofNat (k + 0x80) :: bytes) =
      Char.ofNat (bits * 64 + k) :: decodeFrom .start bytes := by
  rw [decodeFrom, step_inside h]
  rfl

theorem decodeFrom_more (h : InRange low high k) (bits more : Nat) (bytes : List UInt8) :
    decodeFrom (.inside bits (more + 1) low high) (UInt8.ofNat (k + 0x80) :: bytes) =
      decodeFrom (.inside (bits * 64 + k) more 0x80 0xBF) bytes := by
  rw [decodeFrom, step_inside h]
  rfl

theorem decodeFrom_lead {b : UInt8} {state : State} (h : lead? b = some state)
    (bytes : List UInt8) : decodeFrom .start (b :: bytes) = decodeFrom state bytes := by
  have long : ¬ b < 0x80 := by
    intro small
    rw [UInt8.lt_iff_toNat_lt] at small
    change b.toNat < 0x80 at small
    unfold lead? at h
    rw [if_pos (by omega)] at h
    cases h
  simp only [decodeFrom, State.step, if_neg long, begin, h, List.nil_append]

end

theorem lead?_two {l : Nat} (lower : 2 ≤ l) (upper : l < 32) :
    lead? (UInt8.ofNat (l + 0xC0)) = some (.inside l 0 0x80 0xBF) := by
  have value : (UInt8.ofNat (l + 0xC0)).toNat = l + 0xC0 := toNat_ofNat (by omega)
  unfold lead?
  rw [value]
  dsimp only
  rw [if_neg (by omega), if_pos (by omega), Nat.add_sub_cancel]

/-- The first of three bytes waits for any byte that is no overlong form and no surrogate. -/
theorem lead?_three {l k : Nat} (h : l < 16) (small : k < 64) (overlong : l = 0 → 32 ≤ k)
    (surrogate : l = 13 → k < 32) :
    ∃ low high, lead? (UInt8.ofNat (l + 0xE0)) = some (.inside l 1 low high) ∧
      InRange low high k := by
  have value : (UInt8.ofNat (l + 0xE0)).toNat = l + 0xE0 := toNat_ofNat (by omega)
  unfold lead?
  rw [value]
  dsimp only
  rw [if_neg (by omega), if_neg (by omega)]
  by_cases first : l = 0
  · have bound := overlong first
    rw [if_pos (by omega), first]
    refine ⟨_, _, rfl, small, ?_, ?_⟩
    · change 0xA0 ≤ k + 0x80
      omega
    · change k + 0x80 ≤ 0xBF
      omega
  by_cases last : l = 13
  · have bound := surrogate last
    rw [if_neg (by omega), if_pos (by omega), last]
    refine ⟨_, _, rfl, small, ?_, ?_⟩
    · change 0x80 ≤ k + 0x80
      omega
    · change k + 0x80 ≤ 0x9F
      omega
  · rw [if_neg (by omega), if_neg (by omega), if_pos (by omega), Nat.add_sub_cancel]
    exact ⟨_, _, rfl, inRange_any small⟩

/-- The first of four bytes waits for any byte that is no overlong form and not past the last
character. -/
theorem lead?_four {l k : Nat} (h : l < 5) (small : k < 64) (overlong : l = 0 → 16 ≤ k)
    (beyond : l = 4 → k < 16) :
    ∃ low high, lead? (UInt8.ofNat (l + 0xF0)) = some (.inside l 2 low high) ∧
      InRange low high k := by
  have value : (UInt8.ofNat (l + 0xF0)).toNat = l + 0xF0 := toNat_ofNat (by omega)
  unfold lead?
  rw [value]
  dsimp only
  rw [if_neg (by omega), if_neg (by omega), if_neg (by omega), if_neg (by omega),
    if_neg (by omega)]
  by_cases first : l = 0
  · have bound := overlong first
    rw [if_pos (by omega), first]
    refine ⟨_, _, rfl, small, ?_, ?_⟩
    · change 0x90 ≤ k + 0x80
      omega
    · change k + 0x80 ≤ 0xBF
      omega
  by_cases last : l = 4
  · have bound := beyond last
    rw [if_neg (by omega), if_neg (by omega), if_pos (by omega), last]
    refine ⟨_, _, rfl, small, ?_, ?_⟩
    · change 0x80 ≤ k + 0x80
      omega
    · change k + 0x80 ≤ 0x8F
      omega
  · rw [if_neg (by omega), if_pos (by omega), Nat.add_sub_cancel]
    exact ⟨_, _, rfl, inRange_any small⟩

/-- The bytes of a character are read as that character. -/
theorem decodeFrom_utf8EncodeChar (c : Char) (bytes : List UInt8) :
    decodeFrom .start (String.utf8EncodeChar c ++ bytes) = c :: decodeFrom .start bytes := by
  have valid : c.val.toNat < 0xD800 ∨ (0xDFFF < c.val.toNat ∧ c.val.toNat < 0x110000) := c.valid
  have same : Char.ofNat c.val.toNat = c := Char.ofNat_toNat c
  unfold String.utf8EncodeChar
  dsimp only
  generalize c.val.toNat = n at valid same ⊢
  -- By the number of bytes. That the character is no surrogate and not past the last one matters
  -- for the range of the second byte only.
  split
  case isTrue one =>
    have value : (UInt8.ofNat n).toNat = n := toNat_ofNat (by omega)
    have short : UInt8.ofNat n < 0x80 := by
      rw [UInt8.lt_iff_toNat_lt, value]
      change n < 0x80
      omega
    rw [List.singleton_append, decodeFrom_cons_of_lt short, value, same]
    rfl
  split
  case isTrue two =>
    have first : n / 64 % 0x20 = n / 64 := by omega
    have lead := lead?_two (l := n / 64) (by omega) (by omega)
    have last : InRange 0x80 0xBF (n % 0x40) := inRange_any (by omega)
    have bits : n / 64 * 64 + n % 0x40 = n := by omega
    simp only [List.cons_append, List.nil_append]
    rw [first, decodeFrom_lead lead, decodeFrom_last last, bits, same]
  split
  case isTrue three =>
    have first : n / 4096 % 0x10 = n / 4096 := by omega
    obtain ⟨low, high, lead, second⟩ := lead?_three (l := n / 4096) (k := n / 64 % 0x40) (by omega)
      (by omega) (by omega) (by omega)
    have last : InRange 0x80 0xBF (n % 0x40) := inRange_any (by omega)
    have bits : (n / 4096 * 64 + n / 64 % 0x40) * 64 + n % 0x40 = n := by omega
    simp only [List.cons_append, List.nil_append]
    rw [first, decodeFrom_lead lead, decodeFrom_more second, decodeFrom_last last, bits, same]
  case isFalse four =>
    have first : n / 262144 % 0x08 = n / 262144 := by omega
    obtain ⟨low, high, lead, second⟩ := lead?_four (l := n / 262144) (k := n / 4096 % 0x40)
      (by omega) (by omega) (by omega) (by omega)
    have third : InRange 0x80 0xBF (n / 64 % 0x40) := inRange_any (by omega)
    have last : InRange 0x80 0xBF (n % 0x40) := inRange_any (by omega)
    have bits : ((n / 262144 * 64 + n / 4096 % 0x40) * 64 + n / 64 % 0x40) * 64 + n % 0x40 = n := by
      omega
    simp only [List.cons_append, List.nil_append]
    rw [first, decodeFrom_lead lead, decodeFrom_more second, decodeFrom_more third,
      decodeFrom_last last, bits, same]

/-- A text is read back from its bytes. -/
theorem decode_encode (text : String) : decode (encode text) = text := by
  have whole (chars : List Char) :
      decodeFrom .start (chars.flatMap String.utf8EncodeChar) = chars := by
    induction chars with
    | nil => rfl
    | cons c chars ih => rw [List.flatMap_cons, decodeFrom_utf8EncodeChar, ih]
  rw [decode, encode, whole, String.ofList_toList]

end ReleaseSupport.Text.Utf8
