import ReleaseSupport.CommandLine
import ReleaseSupport.Proofs.Refusal
import ReleaseSupport.Proofs.Text.Numeral
import ReleaseSupport.Proofs.Text.Pieces

/-!
Options that are given one after the other. Repositories gather in order, flags and numbers may
stand once and in any order, and the numeral of a 32-bit number may have leading zeros. What a draft
holds after some options that are in order follows from these options alone.
-/

set_option autoImplicit false
set_option relaxedAutoImplicit false

namespace ReleaseSupport.CommandLine

open ReleaseSupport.Text

/-- Whether a text is two or three parts with a slash between them, none of them empty. -/
def NamesRepository (text : List Char) : Prop :=
  ∃ parts : List (List Char), (parts.length = 2 ∨ parts.length = 3) ∧
    (∀ part ∈ parts, part ≠ [] ∧ '/' ∉ part) ∧ ['/'].intercalate parts = text

theorem isRepository_iff {text : List Char} : isRepository text = true ↔ NamesRepository text := by
  simp only [isRepository, decide_eq_true_eq, List.all_eq_true]
  constructor
  · rintro ⟨lower, upper, present⟩
    refine ⟨text.splitOn '/', by omega, ?_, List.intercalate_splitOn '/'⟩
    intro part member
    exact ⟨present part member, not_mem_of_mem_splitOn member⟩
  · rintro ⟨parts, length, inside, rfl⟩
    have some : parts ≠ [] := by
      intro none
      rw [none, List.length_nil] at length
      omega
    rw [List.splitOn_intercalate '/' (fun part member => (inside part member).2) some]
    exact ⟨by omega, by omega, fun part member => (inside part member).1⟩

theorem le_ofDigitChars (text : List Char) (value : Nat) :
    value ≤ Nat.ofDigitChars 10 text value := by
  induction text generalizing value with
  | nil => exact Nat.le_refl value
  | cons c text ih =>
    rw [Nat.ofDigitChars_cons]
    have later := ih (10 * value + (c.toNat - '0'.toNat))
    omega

/-- Digits whose value fits into a signed 64-bit word are read as that value. -/
theorem digits_eq_ok {text : List Char} (ascii : ∀ c ∈ text, c.isDigit = true) (value : Nat)
    (fits : Nat.ofDigitChars 10 text value ≤ 9223372036854775807) :
    digits false value text = .ok (Nat.ofDigitChars 10 text value : Nat) := by
  induction text generalizing value with
  | nil => rfl
  | cons c text ih =>
    have digit := ascii c List.mem_cons_self
    have zero : '0'.toNat ≤ c.toNat := by
      simp only [Char.isDigit, Bool.and_eq_true, decide_eq_true_eq] at digit
      exact digit.1
    have next : (value : Int) * 10 + ((c.toNat : Int) - ('0'.toNat : Int)) =
        ((10 * value + (c.toNat - '0'.toNat) : Nat) : Int) := by
      omega
    rw [Nat.ofDigitChars_cons] at fits ⊢
    have small := le_ofDigitChars text (10 * value + (c.toNat - '0'.toNat))
    simp only [digits, digit, if_true, Bool.false_eq_true, if_false]
    rw [next, if_neg (by omega)]
    exact ih (fun c' member => ascii c' (List.mem_cons_of_mem _ member)) _ fits

theorem integer_of_isDigit {c : Char} (digit : c.isDigit = true) (more : List Char) :
    integer (c :: more) = digits false 0 (c :: more) := by
  have noMinus : c ≠ '-' := by
    rintro rfl
    cases digit
  have noPlus : c ≠ '+' := by
    rintro rfl
    cases digit
  unfold integer
  split <;> simp_all

/-- The numeral of a 32-bit number, with any leading zeros, is read as that number. -/
theorem count_of_isNumeral {text : List Char} {n : UInt32} (h : IsNumeral text n.toNat) :
    count text = .ok n := by
  have small : n.toNat < UInt32.size := n.toNat_lt
  have fits : Nat.ofDigitChars 10 text 0 ≤ 9223372036854775807 := by
    rw [h.value]
    exact Nat.le_of_lt (Nat.lt_trans small (by decide))
  have read := digits_eq_ok h.ascii 0 fits
  rw [h.value] at read
  obtain ⟨c, more, rfl, digit⟩ := h.exists_eq_cons
  have known : integer (c :: more) = .ok (n.toNat : Int) := by
    rw [integer_of_isDigit digit]
    exact read
  have within : 0 ≤ (n.toNat : Int) ∧ (n.toNat : Int) < UInt32.size :=
    ⟨Int.natCast_nonneg _, Int.ofNat_lt.2 small⟩
  refine bind_eq_ok_iff.2 ⟨n.toNat, known, ?_⟩
  rw [if_pos within, Int.toNat_natCast, UInt32.ofNat_toNat]

/-- An option as it is given, with its value if it takes one. -/
inductive Occurrence where
  | flag (flag : Flag)
  | value (parameter : Parameter) (text : List Char)
  deriving DecidableEq, Repr

def Occurrence.switch : Occurrence → Switch
  | .flag f => .flag f
  | .value parameter _ => .parameter parameter

def Occurrence.repository? : Occurrence → Option String
  | .value .repo text => some (String.ofList text)
  | _ => none

/-- Whether an option has a value that it takes. -/
def Occurrence.Valid : Occurrence → Prop
  | .flag _ => True
  | .value .repo text => NamesRepository text
  | .value _ text => ∃ n : UInt32, IsNumeral text n.toNat

theorem Occurrence.Valid.exists_isNumeral {parameter : Parameter} {text : List Char}
    (h : (Occurrence.value parameter text).Valid) (numeric : parameter ≠ .repo) :
    ∃ n : UInt32, IsNumeral text n.toNat := by
  cases parameter with
  | repo => exact absurd rfl numeric
  | limit | maxAge | patchWindow => exact h

/-- The number that some options give for a parameter, if it is among them. -/
inductive GivesNumber (given : List Occurrence) (parameter : Parameter) : Option UInt32 → Prop where
  | some {text : List Char} {n : UInt32} (present : .value parameter text ∈ given)
    (numeral : IsNumeral text n.toNat) : GivesNumber given parameter (some n)
  | none (absent : ∀ text, .value parameter text ∉ given) : GivesNumber given parameter none

theorem GivesNumber.append {given : List Occurrence} {parameter : Parameter} {n : Option UInt32}
    (h : GivesNumber given parameter n) (occurrence : Occurrence)
    (other : occurrence.switch ≠ .parameter parameter) :
    GivesNumber (given ++ [occurrence]) parameter n := by
  cases h with
  | some present numeral => exact .some (List.mem_append_left _ present) numeral
  | none absent =>
    refine .none ?_
    intro text member
    rcases List.mem_append.1 member with before | last
    · exact absent text before
    · rw [← List.mem_singleton.1 last] at other
      exact other rfl

namespace Draft

/-- The number that a draft has for a parameter. -/
def number (d : Draft) : Parameter → Option UInt32
  | .repo => none
  | .limit => d.limit
  | .maxAge => d.maxAge
  | .patchWindow => d.patchWindow

def accept (d : Draft) : Occurrence → Except UsageError Draft
  | .flag flag => d.raise flag
  | .value parameter text => d.set parameter text

def acceptAll (d : Draft) (given : List Occurrence) : Except Stop Draft :=
  (given.foldlM accept d).mapError .misuse

theorem acceptAll_cons (d : Draft) (occurrence : Occurrence) (given : List Occurrence) :
    d.acceptAll (occurrence :: given) =
      (d.accept occurrence).mapError .misuse >>= fun d' => d'.acceptAll given := by
  rw [acceptAll, List.foldlM_cons]
  cases d.accept occurrence <;> rfl

theorem acceptAll_singleton (d : Draft) (occurrence : Occurrence) :
    d.acceptAll [occurrence] = (d.accept occurrence).mapError .misuse := by
  rw [acceptAll_cons]
  cases d.accept occurrence <;> rfl

theorem acceptAll_append (d : Draft) (before given : List Occurrence) :
    d.acceptAll (before ++ given) = d.acceptAll before >>= fun d' => d'.acceptAll given := by
  rw [acceptAll, acceptAll, List.foldlM_append]
  cases before.foldlM accept d <;> rfl

/-- Whether a draft has what some options say and nothing else. -/
structure Holds (d : Draft) (given : List Occurrence) : Prop where
  repos : d.repos = given.filterMap Occurrence.repository?
  flags : ∀ flag, flag ∈ d.flags ↔ .flag flag ∈ given
  numbers : ∀ parameter, parameter ≠ .repo → GivesNumber given parameter (d.number parameter)

theorem holds_nil : ({} : Draft).Holds [] where
  repos := rfl
  flags flag := by simp
  numbers parameter numeric := by
    cases parameter with
    | repo => exact absurd rfl numeric
    | limit => exact .none fun _ => List.not_mem_nil
    | maxAge => exact .none fun _ => List.not_mem_nil
    | patchWindow => exact .none fun _ => List.not_mem_nil

/-- A number that is not there yet is set, and nothing else changes. -/
theorem set_of_isNumeral {d : Draft} {parameter : Parameter} (numeric : parameter ≠ .repo)
    (fresh : d.number parameter = none) {text : List Char} {n : UInt32}
    (numeral : IsNumeral text n.toNat) :
    ∃ d', d.set parameter text = .ok d' ∧ d'.repos = d.repos ∧ d'.flags = d.flags ∧
      ∀ other, d'.number other = if other = parameter then some n else d.number other := by
  have read : single parameter (d.number parameter) text = .ok (some n) := by
    rw [fresh, single, count_of_isNumeral numeral]
    rfl
  cases parameter with
  | repo => exact absurd rfl numeric
  | limit =>
    refine ⟨{ d with limit := some n }, bind_eq_ok_iff.2 ⟨_, read, rfl⟩, rfl, rfl, ?_⟩
    intro other
    cases other <;> rfl
  | maxAge =>
    refine ⟨{ d with maxAge := some n }, bind_eq_ok_iff.2 ⟨_, read, rfl⟩, rfl, rfl, ?_⟩
    intro other
    cases other <;> rfl
  | patchWindow =>
    refine ⟨{ d with patchWindow := some n }, bind_eq_ok_iff.2 ⟨_, read, rfl⟩, rfl, rfl, ?_⟩
    intro other
    cases other <;> rfl

namespace Holds

variable {d : Draft} {given : List Occurrence}

theorem acceptFlag (holds : d.Holds given) {flag : Flag} (fresh : .flag flag ∉ given) :
    ∃ d', d.accept (.flag flag) = .ok d' ∧ d'.Holds (given ++ [.flag flag]) := by
  refine ⟨{ d with flags := flag :: d.flags }, ?_, ?_, ?_, ?_⟩
  · rw [Draft.accept, raise, if_neg (mt (holds.flags flag).1 fresh)]
  · simp [holds.repos, Occurrence.repository?]
  · intro other
    simp [holds.flags other, or_comm]
  · intro parameter numeric
    have kept := (holds.numbers parameter numeric).append (.flag flag) nofun
    cases parameter <;> exact kept

theorem acceptRepository (holds : d.Holds given) {text : List Char} (valid : NamesRepository text) :
    ∃ d', d.accept (.value .repo text) = .ok d' ∧ d'.Holds (given ++ [.value .repo text]) := by
  refine ⟨{ d with repos := d.repos ++ [String.ofList text] }, ?_, ?_, ?_, ?_⟩
  · rw [Draft.accept, set, if_pos (isRepository_iff.2 valid)]
  · simp [holds.repos, Occurrence.repository?]
  · intro other
    simp [holds.flags other]
  · intro parameter numeric
    have differs : Switch.parameter .repo ≠ .parameter parameter := by
      intro same
      exact numeric (Switch.parameter.inj same).symm
    have kept := (holds.numbers parameter numeric).append (.value .repo text) differs
    cases parameter <;> exact kept

theorem acceptNumber (holds : d.Holds given) {parameter : Parameter} (numeric : parameter ≠ .repo)
    (fresh : ∀ text, .value parameter text ∉ given) {text : List Char} {n : UInt32}
    (numeral : IsNumeral text n.toNat) :
    ∃ d', d.accept (.value parameter text) = .ok d' ∧
      d'.Holds (given ++ [.value parameter text]) := by
  have unset : d.number parameter = none := by
    have held := holds.numbers parameter numeric
    generalize d.number parameter = old at held
    cases held with
    | some present _ => exact absurd present (fresh _)
    | none _ => rfl
  obtain ⟨d', set, repos, flags, number⟩ := set_of_isNumeral numeric unset numeral
  have noRepository : (Occurrence.value parameter text).repository? = none := by
    cases parameter with
    | repo => exact absurd rfl numeric
    | limit | maxAge | patchWindow => rfl
  refine ⟨d', set, ?_, ?_, ?_⟩
  · simp [repos, holds.repos, noRepository]
  · intro other
    simp [flags, holds.flags other]
  · intro other numeric'
    rw [number other]
    by_cases same : other = parameter
    · rw [if_pos same, same]
      exact .some (List.mem_append_right _ (List.mem_singleton.2 rfl)) numeral
    · rw [if_neg same]
      refine (holds.numbers other numeric').append (.value parameter text) ?_
      intro equal
      exact same (Switch.parameter.inj equal).symm

/-- One more option is accepted if its value is in order and it may stand here. -/
theorem accept (holds : d.Holds given) {occurrence : Occurrence} (valid : occurrence.Valid)
    (fresh : occurrence.switch ≠ .parameter .repo →
      occurrence.switch ∉ given.map Occurrence.switch) :
    ∃ d', d.accept occurrence = .ok d' ∧ d'.Holds (given ++ [occurrence]) := by
  have absent {other : Occurrence} (same : other.switch = occurrence.switch)
      (once : occurrence.switch ≠ .parameter .repo) : other ∉ given := by
    intro member
    apply fresh once
    rw [← same]
    exact List.mem_map_of_mem member
  cases occurrence with
  | flag flag => exact holds.acceptFlag (absent rfl nofun)
  | value parameter text =>
    by_cases repository : parameter = .repo
    · subst repository
      exact holds.acceptRepository valid
    · obtain ⟨n, numeral⟩ := valid.exists_isNumeral repository
      have numeric : Switch.parameter parameter ≠ .parameter .repo :=
        fun same => repository (Switch.parameter.inj same)
      exact holds.acceptNumber repository (fun _ => absent rfl numeric) numeral

/-- Options whose values are in order are accepted if all but the repositories stand once. -/
theorem acceptAll {before : List Occurrence} (holds : d.Holds before)
    (valid : ∀ occurrence ∈ given, occurrence.Valid)
    (once : ∀ switch, switch ≠ .parameter .repo →
      ((before ++ given).map Occurrence.switch).count switch ≤ 1) :
    ∃ d', d.acceptAll given = .ok d' ∧ d'.Holds (before ++ given) := by
  induction given generalizing d before with
  | nil => exact ⟨d, rfl, by rwa [List.append_nil]⟩
  | cons occurrence given ih =>
    have fresh : occurrence.switch ≠ .parameter .repo →
        occurrence.switch ∉ before.map Occurrence.switch := by
      intro single
      have all := once _ single
      rw [List.map_append, List.count_append, List.map_cons, List.count_cons_self] at all
      exact List.count_eq_zero.1 (by omega)
    obtain ⟨middle, accepted, held⟩ := holds.accept (valid _ List.mem_cons_self) fresh
    obtain ⟨d', rest, final⟩ := ih held
      (fun other member => valid other (List.mem_cons_of_mem _ member)) (by simpa using once)
    refine ⟨d', ?_, by simpa using final⟩
    rw [acceptAll_cons, accepted]
    exact rest

end Holds

end Draft

/-- Whether settings are what some options say, and else the default. -/
structure Settings.Follows (s : Settings) (given : List Occurrence) : Prop where
  repos : s.repos = given.filterMap Occurrence.repository?
  noDisplay : s.noDisplay = true ↔ .flag .noDisplay ∈ given
  /-- The flag to display changes nothing, it only spells out the default. -/
  display : s.display = false ↔ .flag .noDisplay ∈ given
  doc : s.doc = true ↔ .flag .doc ∈ given
  json : s.json = true ↔ .flag .json ∈ given
  verbose : s.verbose = true ↔ .flag .verbose ∈ given
  limit : GivesNumber given .limit s.limit
  maxAge : ∃ n, GivesNumber given .maxAge n ∧ s.maxAge = n.getD 365
  patchWindow : ∃ n, GivesNumber given .patchWindow n ∧ s.patchWindow = n.getD 90

theorem Draft.Holds.settings {d : Draft} {given : List Occurrence} (holds : d.Holds given)
    (repository : ∃ text, .value .repo text ∈ given) :
    ∃ s, d.settings = .ok s ∧ s.Follows given := by
  have some : d.repos ≠ [] := by
    obtain ⟨text, member⟩ := repository
    rw [holds.repos]
    exact List.ne_nil_of_mem (List.mem_filterMap.2 ⟨_, member, rfl⟩)
  have raised (flag : Flag) : decide (flag ∈ d.flags) = true ↔ .flag flag ∈ given :=
    decide_eq_true_iff.trans (holds.flags flag)
  rw [Draft.settings, if_neg some]
  exact ⟨_, rfl, holds.repos, raised .noDisplay,
    (iff_of_eq (Bool.not_eq_false' _)).trans (raised .noDisplay), raised .doc, raised .json,
    raised .verbose, holds.numbers .limit nofun, ⟨_, holds.numbers .maxAge nofun, rfl⟩,
    ⟨_, holds.numbers .patchWindow nofun, rfl⟩⟩

end ReleaseSupport.CommandLine
