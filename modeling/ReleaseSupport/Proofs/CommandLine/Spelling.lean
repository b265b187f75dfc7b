import Mathlib.Data.List.Forall2
import Mathlib.Data.List.TakeWhile
import ReleaseSupport.Proofs.CommandLine.Options

/-!
Spellings of options. An option has a long name and perhaps a short one. Short names may share one
hyphen, and a value may follow in an argument of its own, after an equals sign or, behind a short
name, at once. However some options are spelled, they are read as those options.
-/

set_option autoImplicit false
set_option relaxedAutoImplicit false

namespace ReleaseSupport.CommandLine

open ReleaseSupport.Text

def Flag.long : Flag → List Char
  | .display => "display".toList
  | .noDisplay => "no-display".toList
  | .doc => "doc".toList
  | .json => "json".toList
  | .verbose => "verbose".toList

def Flag.short? : Flag → Option Char
  | .display => some 'd'
  | .doc => some 'D'
  | .verbose => some 'v'
  | .noDisplay | .json => none

def Parameter.long : Parameter → List Char
  | .repo => "repo".toList
  | .limit => "limit".toList
  | .maxAge => "max-age".toList
  | .patchWindow => "patch-window".toList

def Parameter.short? : Parameter → Option Char
  | .repo => some 'R'
  | .limit => some 'L'
  | .maxAge | .patchWindow => none

/-- Whether some letters are the short names of some flags. -/
def Letters : List Flag → List Char → Prop :=
  List.Forall₂ fun flag letter => flag.short? = some letter

/-- The arguments that may stand for some options, as few as stand together: one option by its long
name, or flags behind one hyphen, of which an option with a value may be the last. -/
inductive Spelled : List Occurrence → List (List Char) → Prop where
  | flag (flag : Flag) : Spelled [.flag flag] ['-' :: '-' :: flag.long]
  | separate (parameter : Parameter) {text : List Char} (value : text.head? ≠ some '-') :
      Spelled [.value parameter text] ['-' :: '-' :: parameter.long, text]
  | equals (parameter : Parameter) (text : List Char) :
      Spelled [.value parameter text] ['-' :: '-' :: (parameter.long ++ '=' :: text)]
  | letters {flags : List Flag} {letters : List Char} (named : Letters flags letters)
      (present : letters ≠ []) : Spelled (flags.map .flag) ['-' :: letters]
  | lettersSeparate {flags : List Flag} {letters : List Char} (named : Letters flags letters)
      {parameter : Parameter} {letter : Char} (short : parameter.short? = some letter)
      {text : List Char} (value : text.head? ≠ some '-') :
      Spelled (flags.map .flag ++ [.value parameter text]) ['-' :: (letters ++ [letter]), text]
  | lettersEquals {flags : List Flag} {letters : List Char} (named : Letters flags letters)
      {parameter : Parameter} {letter : Char} (short : parameter.short? = some letter)
      (text : List Char) :
      Spelled (flags.map .flag ++ [.value parameter text])
        ['-' :: (letters ++ letter :: '=' :: text)]
  | lettersAttached {flags : List Flag} {letters : List Char} (named : Letters flags letters)
      {parameter : Parameter} {letter : Char} (short : parameter.short? = some letter)
      {text : List Char} (present : text ≠ []) (value : text.head? ≠ some '=') :
      Spelled (flags.map .flag ++ [.value parameter text]) ['-' :: (letters ++ letter :: text)]

/-- The arguments that may stand for some options one after the other. -/
inductive SpelledBy : List Occurrence → List (List Char) → Prop where
  | nil : SpelledBy [] []
  | append {group given : List Occurrence} {args more : List (List Char)}
      (first : Spelled group args) (rest : SpelledBy given more) :
      SpelledBy (group ++ given) (args ++ more)

section Names

theorem ofLong?_flag (flag : Flag) :
    Switch.ofLong? (String.ofList flag.long) = some (.flag flag) := by
  cases flag <;> rfl

theorem ofLong?_parameter (parameter : Parameter) :
    Switch.ofLong? (String.ofList parameter.long) = some (.parameter parameter) := by
  cases parameter <;> rfl

theorem ofShort?_flag {flag : Flag} {letter : Char} (h : flag.short? = some letter) :
    Switch.ofShort? letter = some (.flag flag) := by
  cases flag <;> cases h <;> rfl

theorem ofShort?_parameter {parameter : Parameter} {letter : Char}
    (h : parameter.short? = some letter) :
    Switch.ofShort? letter = some (.parameter parameter) := by
  cases parameter <;> cases h <;> rfl

theorem ne_hyphen_of_ofShort? {letter : Char} {switch : Switch}
    (h : Switch.ofShort? letter = some switch) : letter ≠ '-' := by
  rintro rfl
  cases h

theorem equals_not_mem_flag (flag : Flag) : '=' ∉ flag.long := by
  cases flag <;> decide

theorem equals_not_mem_parameter (parameter : Parameter) : '=' ∉ parameter.long := by
  cases parameter <;> decide

end Names

namespace Progress

variable {p : Progress} {switch : Switch} {parameter : Parameter}

/-- Reading between two options, none of which waits for its value. -/
def between (d : Draft) : Progress := ⟨d, none⟩

theorem bare_flag (p : Progress) (flag : Flag) :
    p.bare (.flag flag) =
      p.settle >>= fun d => d.acceptAll [.flag flag] >>= fun d' => .ok (between d') := by
  unfold bare
  cases p.settle with
  | error stop => rfl
  | ok d =>
    simp only [Draft.acceptAll_singleton]
    rfl

theorem attached_eq (p : Progress) (parameter : Parameter) (text : List Char) :
    p.attached parameter text =
      p.settle >>= fun d => d.acceptAll [.value parameter text] >>= fun d' =>
        .ok (between d') := by
  unfold attached
  cases p.settle with
  | error stop => rfl
  | ok d =>
    simp only [Draft.acceptAll_singleton]
    rfl

theorem long_name {name : List Char} (named : Switch.ofLong? (String.ofList name) = some switch)
    (plain : '=' ∉ name) : p.long name = p.bare switch := by
  have whole : name.takeWhile (· ≠ '=') = name := by
    refine List.takeWhile_eq_self_iff.2 ?_
    intro c member
    exact decide_eq_true (ne_of_mem_of_not_mem member plain)
  unfold long
  simp only [whole, named, List.drop_length]

theorem long_equals {name : List Char}
    (named : Switch.ofLong? (String.ofList name) = some (.parameter parameter))
    (plain : '=' ∉ name) (text : List Char) :
    p.long (name ++ '=' :: text) = p.attached parameter text := by
  unfold long
  simp only [takeWhile_append_separator plain, named, List.drop_left]

section Letters

variable {flags : List Flag} {letters : List Char} {letter : Char}

theorem short_flag {flag : Flag} (named : flag.short? = some letter) (p : Progress)
    (rest : List Char) :
    p.short (letter :: rest) = p.bare (.flag flag) >>= fun q => q.short rest := by
  rw [short, ofShort?_flag named]

theorem short_separate (named : parameter.short? = some letter) (p : Progress) :
    p.short [letter] = p.bare (.parameter parameter) := by
  rw [short, ofShort?_parameter named]

theorem short_equals (named : parameter.short? = some letter) (p : Progress) (text : List Char) :
    p.short (letter :: '=' :: text) = p.attached parameter text := by
  rw [short, ofShort?_parameter named]
  rfl

theorem short_attached (named : parameter.short? = some letter) (p : Progress) {text : List Char}
    (present : text ≠ []) (value : text.head? ≠ some '=') :
    p.short (letter :: text) = p.attached parameter text := by
  rw [short, ofShort?_parameter named]
  cases text with
  | nil => exact absurd rfl present
  | cons c text =>
    have differs : c ≠ '=' := fun same => value (congrArg some same)
    simp [differs]

/-- The letters of flags are read one after the other, and what follows them after that. -/
theorem short_letters (named : Letters flags letters) (d : Draft) (rest : List Char) :
    (between d).short (letters ++ rest) =
      d.acceptAll (flags.map .flag) >>= fun d' => (between d').short rest := by
  induction named generalizing d with
  | nil => rfl
  | @cons flag letter flags letters first _ ih =>
    rw [List.cons_append, short_flag first, bare_flag, List.map_cons, Draft.acceptAll_cons]
    simp only [Draft.acceptAll_singleton]
    change ((d.accept (.flag flag)).mapError Stop.misuse >>= fun d' => .ok (between d')) >>= _ = _
    cases d.accept (.flag flag) with
    | error error => rfl
    | ok d' => exact ih d'

/-- Whether a text of letters begins with the short name of a flag or of a parameter. -/
inductive Named : List Char → Prop where
  | flag {flag : Flag} {letter : Char} (short : flag.short? = some letter) (rest : List Char) :
      Named (letter :: rest)
  | parameter {parameter : Parameter} {letter : Char} (short : parameter.short? = some letter)
      (rest : List Char) : Named (letter :: rest)

theorem Named.exists_cons {text : List Char} (named : Named text) :
    ∃ letter rest, text = letter :: rest ∧ letter ≠ '-' := by
  cases named with
  | flag short rest => exact ⟨_, rest, rfl, ne_hyphen_of_ofShort? (ofShort?_flag short)⟩
  | parameter short rest => exact ⟨_, rest, rfl, ne_hyphen_of_ofShort? (ofShort?_parameter short)⟩

theorem named_append (named : Letters flags letters) {rest : List Char}
    (behind : letters = [] → Named rest) : Named (letters ++ rest) := by
  cases named with
  | nil => exact behind rfl
  | cons first _ => exact .flag first _

/-- The value of the option begun last is looked at before a short name is. -/
theorem short_settles {text : List Char} (named : Named text) (p : Progress) :
    p.short text = p.settle >>= fun d => (between d).short text := by
  cases named with
  | flag named rest =>
    simp only [short_flag named]
    rw [← bind_assoc]
    rfl
  | parameter named rest =>
    cases rest with
    | nil =>
      simp only [short_separate named]
      rfl
    | cons c text =>
      by_cases equals : c = '='
      · subst equals
        simp only [short_equals named]
        rfl
      · have value : (c :: text).head? ≠ some '=' := fun same => equals (Option.some.inj same)
        simp only [short_attached named _ (List.cons_ne_nil c text) value]
        rfl

theorem step_short {text : List Char} (named : Named text) (p : Progress) :
    p.step ('-' :: text) = p.short text := by
  obtain ⟨letter, rest, rfl, differs⟩ := named.exists_cons
  unfold step
  split
  case h_1 same => exact absurd (List.cons.inj (List.cons.inj same).2).1 differs
  case h_2 same => rw [(List.cons.inj same).2]
  case h_3 other => exact absurd rfl (other letter rest)

theorem letters_ne_hyphen {text : List Char} (named : Named text) :
    '-' :: text ≠ ['-', '-'] := by
  obtain ⟨letter, rest, rfl, differs⟩ := named.exists_cons
  intro same
  exact differs (List.cons.inj (List.cons.inj same).2).1

/-- An argument of letters reads its flags, and then what stands behind them. -/
theorem step_letters (named : Letters flags letters) {rest : List Char}
    (behind : letters = [] → Named rest) (p : Progress) :
    p.step ('-' :: (letters ++ rest)) =
      p.settle >>= fun d =>
        d.acceptAll (flags.map .flag) >>= fun d' => (between d').short rest := by
  have known := named_append named behind
  rw [step_short known, short_settles known]
  simp only [short_letters named]

end Letters

/-- Whether an argument is read as some options, behind which one more may be begun whose value is
to follow. -/
structure Reads (argument : List Char) (group : List Occurrence) (begun : Option Parameter) :
    Prop where
  option : argument ≠ ['-', '-']
  step_eq : ∀ p : Progress, p.step argument =
    p.settle >>= fun d => d.acceptAll group >>= fun d' => .ok ⟨d', begun.map (·, none)⟩

section Reads

theorem reads_long_flag (flag : Flag) : Reads ('-' :: '-' :: flag.long) [.flag flag] none where
  option := by cases flag <;> decide
  step_eq p := by
    change p.long flag.long = _
    rw [long_name (ofLong?_flag flag) (equals_not_mem_flag flag), bare_flag]
    rfl

theorem reads_long_separate (parameter : Parameter) :
    Reads ('-' :: '-' :: parameter.long) [] (some parameter) where
  option := by cases parameter <;> decide
  step_eq p := by
    change p.long parameter.long = _
    rw [long_name (ofLong?_parameter parameter) (equals_not_mem_parameter parameter)]
    rfl

theorem reads_long_equals (parameter : Parameter) (text : List Char) :
    Reads ('-' :: '-' :: (parameter.long ++ '=' :: text)) [.value parameter text] none where
  option := by
    intro same
    have length := congrArg List.length same
    simp only [List.length_cons, List.length_append, List.length_nil] at length
    omega
  step_eq p := by
    change p.long (parameter.long ++ '=' :: text) = _
    rw [long_equals (ofLong?_parameter parameter) (equals_not_mem_parameter parameter),
      attached_eq]
    rfl

variable {flags : List Flag} {letters : List Char} {letter : Char}

theorem reads_letters (named : Letters flags letters) (present : letters ≠ []) :
    Reads ('-' :: letters) (flags.map .flag) none := by
  have behind : letters = [] → Named [] := fun none => absurd none present
  have known := named_append named behind
  have read := step_letters named behind
  rw [List.append_nil] at known read
  exact ⟨letters_ne_hyphen known, read⟩

theorem reads_lettersSeparate (named : Letters flags letters)
    (short : parameter.short? = some letter) :
    Reads ('-' :: (letters ++ [letter])) (flags.map .flag) (some parameter) := by
  have behind : letters = [] → Named [letter] := fun _ => .parameter short []
  refine ⟨letters_ne_hyphen (named_append named behind), ?_⟩
  intro p
  rw [step_letters named behind]
  simp only [short_separate short]
  rfl

/-- Letters with a value in the same argument, which is read as that of the last letter. -/
theorem reads_lettersValue (named : Letters flags letters)
    (short : parameter.short? = some letter) {rest text : List Char}
    (attached : ∀ d, (between d).short (letter :: rest) = (between d).attached parameter text) :
    Reads ('-' :: (letters ++ letter :: rest)) (flags.map .flag ++ [.value parameter text])
      none := by
  have behind : letters = [] → Named (letter :: rest) := fun _ => .parameter short rest
  refine ⟨letters_ne_hyphen (named_append named behind), ?_⟩
  intro p
  rw [step_letters named behind]
  simp only [attached, attached_eq, Draft.acceptAll_append, bind_assoc]
  rfl

end Reads

section Runs

variable {argument : List Char} {group given : List Occurrence} {more : List (List Char)}

theorem readAll_cons (option : argument ≠ ['-', '-']) (p : Progress) :
    p.readAll (argument :: more) = p.step argument >>= fun q => q.readAll more := by
  rw [readAll.eq_def]
  exact if_neg option

theorem readAll_of_reads (reads : Reads argument group none)
    (later : ∀ q : Progress, (q.readAll more >>= settle) = q.settle >>= fun d => d.acceptAll given)
    (p : Progress) :
    (p.readAll (argument :: more) >>= settle) =
      p.settle >>= fun d => d.acceptAll (group ++ given) := by
  rw [readAll_cons reads.option, reads.step_eq]
  cases p.settle with
  | error stop => rfl
  | ok d =>
    change (d.acceptAll group >>= _ >>= fun q : Progress => q.readAll more) >>= settle =
      d.acceptAll _
    rw [Draft.acceptAll_append]
    cases d.acceptAll group with
    | error stop => rfl
    | ok d' => exact later (between d')

/-- An argument that begins with no hyphen is the value of the option begun last. -/
theorem step_value {text : List Char} (value : text.head? ≠ some '-') (d : Draft)
    (parameter : Parameter) :
    (⟨d, some (parameter, none)⟩ : Progress).step text =
      .ok ⟨d, some (parameter, some text)⟩ := by
  cases text with
  | nil => rfl
  | cons c text =>
    have differs : c ≠ '-' := fun same => value (congrArg some same)
    simp [step, plain, differs]

theorem readAll_of_reads_value (reads : Reads argument group (some parameter)) {text : List Char}
    (value : text.head? ≠ some '-')
    (later : ∀ q : Progress, (q.readAll more >>= settle) = q.settle >>= fun d => d.acceptAll given)
    (p : Progress) :
    (p.readAll (argument :: text :: more) >>= settle) =
      p.settle >>= fun d => d.acceptAll (group ++ [.value parameter text] ++ given) := by
  have follows (d : Draft) : (⟨d, some (parameter, none)⟩ : Progress).step text =
      .ok ⟨d, some (parameter, some text)⟩ := step_value value ..
  have noOption : text ≠ ['-', '-'] := by
    rintro rfl
    exact value rfl
  rw [readAll_cons reads.option, reads.step_eq]
  cases p.settle with
  | error stop => rfl
  | ok d =>
    change (d.acceptAll group >>= _ >>= fun q : Progress => q.readAll (text :: more)) >>= settle =
      d.acceptAll _
    rw [List.append_assoc, Draft.acceptAll_append]
    cases d.acceptAll group with
    | error stop => rfl
    | ok d' =>
      change ((⟨d', some (parameter, none)⟩ : Progress).readAll (text :: more) >>= settle) =
        d'.acceptAll (.value parameter text :: given)
      rw [readAll_cons noOption, follows, Draft.acceptAll_cons]
      exact later ⟨d', some (parameter, some text)⟩

/-- Options are read as they are, however they are spelled: what reading accepts or refuses, and
why, depends on the options alone. -/
theorem readAll_spelledBy {args : List (List Char)} (spelled : SpelledBy given args)
    (p : Progress) :
    (p.readAll args >>= settle) = p.settle >>= fun d => d.acceptAll given := by
  induction spelled generalizing p with
  | nil =>
    change p.settle = _
    cases p.settle <;> rfl
  | append first _ ih =>
    cases first with
    | flag flag => exact readAll_of_reads (reads_long_flag flag) ih p
    | separate parameter value =>
      exact readAll_of_reads_value (reads_long_separate parameter) value ih p
    | equals parameter text => exact readAll_of_reads (reads_long_equals parameter text) ih p
    | letters named present => exact readAll_of_reads (reads_letters named present) ih p
    | lettersSeparate named short value =>
      exact readAll_of_reads_value (reads_lettersSeparate named short) value ih p
    | lettersEquals named short text =>
      have reads := reads_lettersValue named short fun d => short_equals short (between d) text
      exact readAll_of_reads reads ih p
    | lettersAttached named short present value =>
      have reads := reads_lettersValue named short fun d =>
        short_attached short (between d) present value
      exact readAll_of_reads reads ih p

end Runs

end Progress

/-- However some options are spelled, the arguments are read as those options. -/
theorem parse_eq_of_spelledBy {given : List Occurrence} {args : List String}
    (spelled : SpelledBy given (args.map String.toList)) :
    parse args = ({} : Draft).acceptAll given >>= Draft.settings := by
  have read := Progress.readAll_spelledBy spelled {}
  change (({} : Progress).readAll (args.map String.toList) >>= Progress.settle) =
    ({} : Draft).acceptAll given at read
  rw [parse, ← read, bind_assoc]

/-- Options in any order and in any spelling are accepted if a repository is among them, all values
are in order, and all options but repositories stand once. The settings have the repositories as
they are written, in order, and for everything else what the options say or the default. -/
theorem parse_of_spelledBy (given : List Occurrence) (args : List String)
    (spelled : SpelledBy given (args.map String.toList))
    (repository : ∃ text, .value .repo text ∈ given)
    (valid : ∀ occurrence ∈ given, occurrence.Valid)
    (once : ∀ switch, switch ≠ .parameter .repo →
      (given.map Occurrence.switch).count switch ≤ 1) :
    ∃ s, parse args = .ok s ∧ s.Follows given := by
  obtain ⟨d, accepted, holds⟩ := Draft.holds_nil.acceptAll valid once
  obtain ⟨s, settled, follows⟩ := holds.settings repository
  refine ⟨s, ?_, follows⟩
  rw [parse_eq_of_spelledBy spelled, accepted]
  exact settled

/-- All spellings of a value, with flags in front and between, repositories with an equals sign,
with hyphens and with a host, and numbers with leading zeros and as large as they may be. -/
theorem parse_of_spelledBy_mixed :
    let args := ["-dR", "=a/b=c", "--limit=007", "-R==/-", "--no-display", "-vDRh.io/a/b",
      "--max-age", "4294967295", "--repo=--json/x"]
    ∃ s, parse args = .ok s ∧
      s.repos = ["=a/b=c", "=/-", "h.io/a/b", "--json/x"] ∧ s.display = false ∧ s.doc = true ∧
      s.json = false ∧ s.verbose = true ∧ s.limit = some 7 ∧ s.maxAge = 4294967295 ∧
      s.patchWindow = 90 := by
  intro args
  let given : List Occurrence :=
    [.flag .display, .value .repo "=a/b=c".toList, .value .limit "007".toList,
      .value .repo "=/-".toList, .flag .noDisplay, .flag .verbose, .flag .doc,
      .value .repo "h.io/a/b".toList, .value .maxAge "4294967295".toList,
      .value .repo "--json/x".toList]
  have spelled : SpelledBy given (args.map String.toList) :=
    .append (@Spelled.lettersSeparate [.display] ['d'] (.cons rfl .nil) .repo 'R' rfl
      "=a/b=c".toList (by decide)) <|
    .append (.equals .limit "007".toList) <|
    .append (@Spelled.lettersEquals [] [] .nil .repo 'R' rfl "=/-".toList) <|
    .append (.flag .noDisplay) <|
    .append (@Spelled.lettersAttached [.verbose, .doc] ['v', 'D'] (.cons rfl (.cons rfl .nil))
      .repo 'R' rfl "h.io/a/b".toList (by decide) (by decide)) <|
    .append (@Spelled.separate .maxAge "4294967295".toList (by decide)) <|
    .append (.equals .repo "--json/x".toList) .nil
  have repository {text : List Char} (h : isRepository text = true) :
      (Occurrence.value .repo text).Valid := isRepository_iff.1 h
  have valid : ∀ occurrence ∈ given, occurrence.Valid := by
    simp only [given, List.forall_mem_cons]
    refine ⟨trivial, repository (by decide), ⟨7, ?_⟩, repository (by decide), trivial, trivial,
      trivial, repository (by decide), ⟨4294967295, ?_⟩, repository (by decide), nofun⟩
    · exact ⟨by decide, List.all_eq_true.1 (by decide), by decide +kernel⟩
    · exact ⟨by decide, List.all_eq_true.1 (by decide), by decide +kernel⟩
  have once : ∀ switch, switch ≠ .parameter .repo →
      (given.map Occurrence.switch).count switch ≤ 1 := by
    intro switch single
    rcases switch with flag | parameter | _ | _
    · cases flag <;> decide
    · cases parameter with
      | repo => exact absurd rfl single
      | limit | maxAge | patchWindow => decide
    · decide
    · decide
  obtain ⟨s, read, -⟩ :=
    parse_of_spelledBy given args spelled ⟨"=/-".toList, by decide⟩ valid once
  have concrete : parse args = .ok ⟨["=a/b=c", "=/-", "h.io/a/b", "--json/x"], true, true, false,
      true, some 7, 4294967295, 90⟩ := by
    decide +kernel
  obtain rfl := Except.ok.inj (read.symm.trans concrete)
  exact ⟨_, read, rfl, rfl, rfl, rfl, rfl, rfl, rfl, rfl⟩

end ReleaseSupport.CommandLine
