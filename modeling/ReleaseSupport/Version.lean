import ReleaseSupport.Text.Digit

/-!
Versions of releases and the minor lines that they belong to. A tag names a version if it begins
with `v` and three numbers joined by points; the last number ends where the digits end, and whatever
follows it does not matter.
-/

set_option autoImplicit false
set_option relaxedAutoImplicit false

namespace ReleaseSupport

open ReleaseSupport.Text

/-- A minor line: all the versions that share their first two numbers. -/
@[ext] structure MinorLine where
  major : UInt64
  minor : UInt64
  deriving DecidableEq, Repr

namespace MinorLine

/-- Minor lines compare by their first number, then by their second. -/
instance : LT MinorLine :=
  ⟨fun a b => a.major < b.major ∨ (a.major = b.major ∧ a.minor < b.minor)⟩

theorem lt_iff {a b : MinorLine} :
    a < b ↔ a.major < b.major ∨ (a.major = b.major ∧ a.minor < b.minor) := Iff.rfl

instance (a b : MinorLine) : Decidable (a < b) := decidable_of_iff' _ lt_iff

theorem lt_trans {a b c : MinorLine} (hab : a < b) (hbc : b < c) : a < c := by
  simp only [lt_iff, UInt64.lt_iff_toNat_lt, ← UInt64.toNat_inj] at *
  omega

theorem lt_of_ne_of_not_lt {a b : MinorLine} (hne : a ≠ b) (h : ¬ a < b) : b < a := by
  rw [ne_eq, MinorLine.ext_iff] at hne
  simp only [lt_iff, UInt64.lt_iff_toNat_lt, ← UInt64.toNat_inj] at *
  omega

theorem lt_irrefl (a : MinorLine) : ¬ a < a := by
  simp only [lt_iff, UInt64.lt_iff_toNat_lt]
  omega

theorem ne_of_lt {a b : MinorLine} (h : a < b) : a ≠ b := by
  rintro rfl
  exact lt_irrefl a h

theorem not_lt_of_lt {a b : MinorLine} (h : a < b) : ¬ b < a := by
  intro back
  exact lt_irrefl a (lt_trans h back)

def text (line : MinorLine) : String := s!"v{line.major}.{line.minor}"

end MinorLine

/-- A version: the numbers of its minor line and its patch number. -/
@[ext] structure Version where
  major : UInt64
  minor : UInt64
  patch : UInt64
  deriving DecidableEq, Repr

namespace Version

def minorLine (v : Version) : MinorLine := ⟨v.major, v.minor⟩

def text (v : Version) : String := s!"v{v.major}.{v.minor}.{v.patch}"

/-- The longest run of decimal digits at the start of a text, as a number, and the text after it;
none if there is no digit, a digit that is not ASCII, or a number of more than 64 bits. -/
def component? (text : List Char) : Option (UInt64 × List Char) := do
  let digits := text.takeWhile isDecimalDigit
  guard (digits ≠ [])
  let value ← natOfDigits? digits
  guard (value < UInt64.size)
  return (UInt64.ofNat value, text.drop digits.length)

def after? (c : Char) : List Char → Option (List Char)
  | [] => none
  | d :: rest => if d = c then some rest else none

def ofChars? (tag : List Char) : Option Version := do
  let (major, rest) ← component? (← after? 'v' tag)
  let (minor, rest) ← component? (← after? '.' rest)
  let (patch, _) ← component? (← after? '.' rest)
  return ⟨major, minor, patch⟩

def ofTag? (tag : String) : Option Version := ofChars? tag.toList

end Version

end ReleaseSupport
