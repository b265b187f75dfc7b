import ReleaseSupport.Proofs.Json.Grammar

/-!
A scanner of JSON. It reads a text character by character, and finds in it the tokens that the text
spells, if there are any.
-/

set_option autoImplicit false
set_option relaxedAutoImplicit false

namespace ReleaseSupport.Json

/-- What the scanner is in the middle of: nothing; a word; a string, with its content so far; or an
escape in a string, with what follows its backslash so far. -/
inductive Scan where
  | between
  | word (chars : List Char)
  | text (content : List Char)
  | escape (content raw : List Char)

namespace Scan

/-- Scans a character between two tokens. -/
def begin (c : Char) : List Token × Scan :=
  match Mark.of? c with
  | some m => ([.mark m], .between)
  | none =>
    if isSpace c then ([], .between)
    else if c = '"' then ([], .text [])
    else ([], .word [c])

/-- Scans one character: the tokens that it completes, and what the scanner is in then. -/
def step (c : Char) : Scan → Option (List Token × Scan)
  | .between => some (begin c)
  | .word chars =>
    if isWordChar c then some ([], .word (chars ++ [c]))
    else (Word.of? chars).map fun w => (.word w :: (begin c).1, (begin c).2)
  | .text content =>
    if c = '"' then some ([.text (String.ofList content)], .between)
    else if c = '\\' then some ([], .escape content [])
    else if isPlain c then some ([], .text (content ++ [c]))
    else none
  | .escape content raw =>
    -- No escape has more than eleven characters after its backslash.
    match unescape? (raw ++ [c]) with
    | some meant => some ([], .text (content ++ [meant]))
    | none => if raw.length < 10 then some ([], .escape content (raw ++ [c])) else none

def finish : Scan → Option (List Token)
  | .between => some []
  | .word chars => (Word.of? chars).map fun w => [.word w]
  | _ => none

end Scan

/-- The tokens of a text, from what the scanner is in the middle of. -/
def scan : Scan → List Char → Option (List Token)
  | state, [] => state.finish
  | state, c :: rest => do
    let (tokens, next) ← state.step c
    let later ← scan next rest
    return tokens ++ later

namespace Scan

/-- What was scanned since the last token that is complete. -/
inductive Reads : Scan → List Char → Prop
  | between : Reads .between []
  | word {chars : List Char} (inside : ∀ c ∈ chars, isWordChar c = true) :
    Reads (.word chars) chars
  | text {body content : List Char} (h : Quotes body content) : Reads (.text content) ('"' :: body)
  | escape {body content raw : List Char} (h : Quotes body content) :
    Reads (.escape content raw) ('"' :: body ++ '\\' :: raw)

end Scan

theorem quotes_nil : Quotes [] [] := ⟨[], .nil, rfl⟩

theorem Quotes.append {body content form : List Char} {c : Char} (h : Quotes body content)
    (own : Form form c) : Quotes (body ++ form) (content ++ [c]) := by
  obtain ⟨forms, each, rfl⟩ := h
  refine ⟨forms ++ [form], List.rel_append each (.cons own .nil), ?_⟩
  rw [List.flatten_append, List.flatten_singleton]

theorem isWordChar_of_begin {c : Char} (unmarked : Mark.of? c = none) (full : isSpace c ≠ true)
    (unquoted : c ≠ '"') : isWordChar c = true := by
  simp [isWordChar, unmarked, full, unquoted]

/-- What is scanned between two tokens is spelled if what follows is. -/
theorem spells_of_begin {c : Char} {text : List Char} {tokens : List Token}
    (later : ∀ read, (Scan.begin c).2.Reads read → Spells (read ++ text) tokens) :
    Spells (c :: text) ((Scan.begin c).1 ++ tokens) := by
  unfold Scan.begin at later ⊢
  split at later
  case h_1 m marked =>
    rw [← Mark.char_of_of? marked]
    exact .mark m (later [] .between)
  case h_2 unmarked =>
    split_ifs at later ⊢ with space quote
    · exact .space space (later [] .between)
    · rw [quote]
      exact later ['"'] (.text quotes_nil)
    · refine later [c] (.word ?_)
      intro d hd
      rw [List.mem_singleton.1 hd]
      exact isWordChar_of_begin unmarked space quote

theorem spells_of_wordStep {chars text : List Char} {c : Char} {tokens completed : List Token}
    {next : Scan} (inside : ∀ d ∈ chars, isWordChar d = true)
    (stepped : Scan.step c (.word chars) = some (completed, next))
    (later : ∀ read, next.Reads read → Spells (read ++ text) tokens) :
    Spells (chars ++ c :: text) (completed ++ tokens) := by
  rw [Scan.step] at stepped
  split at stepped
  case isTrue more =>
    obtain ⟨rfl, rfl⟩ := Prod.mk.inj (Option.some.inj stepped)
    have longer : ∀ d ∈ chars ++ [c], isWordChar d = true := by
      intro d hd
      rcases List.mem_append.1 hd with hd | hd
      · exact inside d hd
      · rwa [List.mem_singleton.1 hd]
    have whole := later _ (.word longer)
    rwa [List.append_assoc, List.singleton_append] at whole
  case isFalse last =>
    obtain ⟨w, named, rest⟩ := Option.map_eq_some_iff.1 stepped
    obtain ⟨rfl, rfl⟩ := Prod.mk.inj rest
    refine .word inside named ?_ (spells_of_begin later)
    intro d hd
    obtain rfl := Option.some.inj hd
    exact Bool.eq_false_iff.2 last

theorem spells_of_textStep {body content text : List Char} {c : Char}
    {tokens completed : List Token} {next : Scan} (quotes : Quotes body content)
    (stepped : Scan.step c (.text content) = some (completed, next))
    (later : ∀ read, next.Reads read → Spells (read ++ text) tokens) :
    Spells ('"' :: body ++ c :: text) (completed ++ tokens) := by
  rw [Scan.step] at stepped
  split_ifs at stepped with quote backslash plain
  · obtain ⟨rfl, rfl⟩ := Prod.mk.inj (Option.some.inj stepped)
    rw [quote]
    exact .text quotes (later [] .between)
  · obtain ⟨rfl, rfl⟩ := Prod.mk.inj (Option.some.inj stepped)
    have whole := later _ (.escape quotes)
    rw [backslash]
    rwa [List.append_assoc] at whole
  · obtain ⟨rfl, rfl⟩ := Prod.mk.inj (Option.some.inj stepped)
    have whole := later _ (.text (quotes.append (.plain plain)))
    rwa [← List.cons_append, List.append_assoc] at whole

theorem spells_of_escapeStep {body content raw text : List Char} {c : Char}
    {tokens completed : List Token} {next : Scan} (quotes : Quotes body content)
    (stepped : Scan.step c (.escape content raw) = some (completed, next))
    (later : ∀ read, next.Reads read → Spells (read ++ text) tokens) :
    Spells ('"' :: body ++ '\\' :: raw ++ c :: text) (completed ++ tokens) := by
  have joined : '"' :: body ++ '\\' :: raw ++ c :: text =
      '"' :: body ++ '\\' :: (raw ++ [c]) ++ text := by simp
  rw [Scan.step] at stepped
  split at stepped
  case h_1 meant complete =>
    obtain ⟨rfl, rfl⟩ := Prod.mk.inj (Option.some.inj stepped)
    rw [joined]
    exact later _ (.text (quotes.append (.escape complete)))
  case h_2 incomplete =>
    split at stepped
    · obtain ⟨rfl, rfl⟩ := Prod.mk.inj (Option.some.inj stepped)
      rw [joined]
      exact later _ (.escape quotes)
    · cases stepped

/-- What one step completes is spelled if what follows is. -/
theorem spells_of_step {state next : Scan} {c : Char} {read text : List Char}
    {tokens completed : List Token} (reads : state.Reads read)
    (stepped : state.step c = some (completed, next))
    (later : ∀ read, next.Reads read → Spells (read ++ text) tokens) :
    Spells (read ++ c :: text) (completed ++ tokens) := by
  cases reads with
  | between =>
    have begun : Scan.begin c = (completed, next) := Option.some.inj stepped
    have whole : Spells (c :: text) ((Scan.begin c).1 ++ tokens) := by
      apply spells_of_begin
      rwa [begun]
    rwa [begun] at whole
  | word inside => exact spells_of_wordStep inside stepped later
  | text quotes => exact spells_of_textStep quotes stepped later
  | escape quotes => exact spells_of_escapeStep quotes stepped later

theorem spells_of_finish {state : Scan} {read : List Char} {tokens : List Token}
    (reads : state.Reads read) (h : state.finish = some tokens) : Spells read tokens := by
  cases reads with
  | between =>
    obtain rfl := Option.some.inj h
    exact .done
  | word inside =>
    obtain ⟨w, named, rfl⟩ := Option.map_eq_some_iff.1 h
    have whole := Spells.word inside named (by simp) .done
    rwa [List.append_nil] at whole
  | text => cases h
  | escape => cases h

/-- What is scanned is spelled. -/
theorem spells_of_scan {state : Scan} {text read : List Char} {tokens : List Token}
    (reads : state.Reads read) (h : scan state text = some tokens) :
    Spells (read ++ text) tokens := by
  induction text generalizing state read tokens with
  | nil =>
    rw [List.append_nil]
    exact spells_of_finish reads h
  | cons c text ih =>
    obtain ⟨⟨completed, next⟩, stepped, h⟩ := Option.bind_eq_some_iff.1 h
    obtain ⟨later, scanned, joined⟩ := Option.bind_eq_some_iff.1 h
    obtain rfl := Option.some.inj joined
    exact spells_of_step reads stepped fun _ reads => ih reads scanned

theorem scan_of_step {state next : Scan} {c : Char} {completed : List Token}
    (h : state.step c = some (completed, next)) (text : List Char) :
    scan state (c :: text) = (scan next text).map (completed ++ ·) := by
  rw [scan, h]
  cases later : scan next text <;> simp [later]

theorem scan_of_silent_step {state next : Scan} {c : Char} (h : state.step c = some ([], next))
    (text : List Char) : scan state (c :: text) = scan next text := by
  rw [scan_of_step h]
  exact Option.map_id_apply

theorem step_between {c : Char} {completed : List Token} {next : Scan}
    (h : Scan.begin c = (completed, next)) : Scan.step c .between = some (completed, next) :=
  congrArg some h

/-- The first of two surrogates is no code point by itself. -/
theorem codePoint?_eq_none_of_pair {a b c d backslash u e f g h meant : Char}
    (pair : codePoint? [a, b, c, d, backslash, u, e, f, g, h] = some meant) :
    codePoint? [a, b, c, d] = none := by
  simp only [codePoint?, Option.bind_eq_bind, Option.bind_eq_some_iff] at pair
  obtain ⟨high, first, low, -, ending⟩ := pair
  split at ending
  case isTrue bounds =>
    have surrogate : ¬ high.isValidChar := by
      unfold Nat.isValidChar
      omega
    simp only [codePoint?, first, Option.bind_eq_bind, Option.bind_some, if_neg surrogate]
  case isFalse => cases ending

/-- No code point begins another one. -/
theorem codePoint?_eq_none {p q : List Char} {meant : Char} (h : codePoint? (p ++ q) = some meant)
    (more : q ≠ []) : codePoint? p = none := by
  obtain ⟨d, q, rfl⟩ := List.exists_cons_of_ne_nil more
  unfold codePoint?
  split
  case h_1 =>
    have pair := h
    unfold codePoint? at h
    split at h
    case h_1 same => cases same
    case h_2 same =>
      rw [same] at pair
      have single := codePoint?_eq_none_of_pair pair
      cases same
      exact single
    case h_3 => cases h
  case h_2 => cases h
  case h_3 => rfl

theorem length_le_of_codePoint? {digits : List Char} {c : Char} (h : codePoint? digits = some c) :
    digits.length ≤ 10 := by
  unfold codePoint? at h
  split at h
  · simp
  · simp
  · cases h

theorem length_le_of_unescape? {raw : List Char} {c : Char} (h : unescape? raw = some c) :
    raw.length ≤ 11 := by
  unfold unescape? at h
  split at h
  · cases h
  · simp
  · split at h
    · have bound := length_le_of_codePoint? h
      rw [List.length_cons]
      omega
    · cases h

/-- No escape begins another one. -/
theorem unescape?_eq_none {p q : List Char} {meant : Char}
    (h : unescape? (p ++ q) = some meant) (more : q ≠ []) : unescape? p = none := by
  match p with
  | [] => rfl
  | [c] =>
    obtain ⟨d, q, rfl⟩ := List.exists_cons_of_ne_nil more
    change (if c = 'u' then codePoint? (d :: q) else none) = _ at h
    split at h
    case isTrue digits =>
      rw [digits]
      decide
    case isFalse => cases h
  | c :: d :: digits =>
    change (if c = 'u' then codePoint? (d :: digits ++ q) else none) = _ at h
    change (if c = 'u' then codePoint? (d :: digits) else none) = _
    split at h
    case isTrue known => rw [if_pos known, codePoint?_eq_none h more]
    case isFalse => cases h

theorem scan_escape {content p q text : List Char} {c : Char} (h : unescape? (p ++ q) = some c)
    (more : q ≠ []) :
    scan (.escape content p) (q ++ text) = scan (.text (content ++ [c])) text := by
  induction q generalizing p with
  | nil => exact absurd rfl more
  | cons d q ih =>
    have bound := length_le_of_unescape? h
    cases q with
    | nil =>
      refine scan_of_silent_step ?_ text
      rw [Scan.step, h]
    | cons e q =>
      -- Not before its last character is the escape complete, for no escape begins another one.
      have same : p ++ d :: e :: q = (p ++ [d]) ++ e :: q := by simp
      rw [same] at h bound
      have incomplete : unescape? (p ++ [d]) = none := unescape?_eq_none h (List.cons_ne_nil e q)
      have short : p.length < 10 := by
        simp only [List.length_append, List.length_cons, List.length_nil] at bound
        omega
      have stepped : Scan.step d (.escape content p) = some ([], .escape content (p ++ [d])) := by
        rw [Scan.step, incomplete, if_pos short]
      rw [List.cons_append, scan_of_silent_step stepped]
      exact ih h (List.cons_ne_nil e q)

theorem scan_form {content form : List Char} {c : Char} (h : Form form c) (text : List Char) :
    scan (.text content) (form ++ text) = scan (.text (content ++ [c])) text := by
  cases h with
  | plain plain =>
    refine scan_of_silent_step ?_ text
    have outside := plain
    simp only [isPlain, Bool.and_eq_true, bne_iff_ne] at outside
    rw [Scan.step, if_neg outside.1.2, if_neg outside.2, if_pos plain]
  | @escape raw _ meant =>
    have present : raw ≠ [] := by
      rintro rfl
      cases meant
    rw [List.cons_append, scan_of_silent_step (by rfl)]
    exact scan_escape meant present

theorem scan_quotes {body content : List Char} (h : Quotes body content) (before text : List Char) :
    scan (.text before) (body ++ text) = scan (.text (before ++ content)) text := by
  obtain ⟨forms, each, rfl⟩ := h
  induction each generalizing before with
  | nil => rw [List.flatten_nil, List.nil_append, List.append_nil]
  | cons own _ ih =>
    rw [List.flatten_cons, List.append_assoc, scan_form own, ih, List.append_assoc,
      List.singleton_append]

theorem begin_of_isWordChar {c : Char} (h : isWordChar c = true) :
    Scan.begin c = ([], .word [c]) := by
  simp only [isWordChar, Bool.and_eq_true, Bool.not_eq_true', Option.isNone_iff_eq_none,
    bne_iff_ne] at h
  obtain ⟨⟨full, unmarked⟩, unquoted⟩ := h
  simp [Scan.begin, full, unmarked, unquoted]

theorem scan_wordChars {chars : List Char} (inside : ∀ c ∈ chars, isWordChar c = true)
    (before text : List Char) :
    scan (.word before) (chars ++ text) = scan (.word (before ++ chars)) text := by
  induction chars generalizing before with
  | nil => rw [List.nil_append, List.append_nil]
  | cons c chars ih =>
    have stepped : Scan.step c (.word before) = some ([], .word (before ++ [c])) := by
      rw [Scan.step, if_pos (inside c List.mem_cons_self)]
    rw [List.cons_append, scan_of_silent_step stepped,
      ih fun d hd => inside d (List.mem_cons_of_mem c hd), List.append_assoc,
      List.singleton_append]

/-- A word ends before the first character that cannot belong to it. -/
theorem scan_word {chars text : List Char} {w : Word} (named : Word.of? chars = some w)
    (ends : ∀ c, text.head? = some c → isWordChar c = false) :
    scan (.word chars) text = (scan .between text).map (.word w :: ·) := by
  cases text with
  | nil =>
    change (Word.of? chars).map _ = _
    rw [named]
    rfl
  | cons c text =>
    have last := ends c rfl
    have stepped : Scan.step c (.word chars) =
        some (.word w :: (Scan.begin c).1, (Scan.begin c).2) := by
      simp only [Scan.step, last, named, Option.map_some, Bool.false_eq_true, if_false]
    have begun : Scan.step c .between = some ((Scan.begin c).1, (Scan.begin c).2) := rfl
    rw [scan_of_step stepped, scan_of_step begun, Option.map_map]
    rfl

theorem begin_of_isSpace {c : Char} (h : isSpace c = true) : Scan.begin c = ([], .between) := by
  simp only [isSpace, Bool.or_eq_true, decide_eq_true_eq] at h
  rcases h with ((rfl | rfl) | rfl) | rfl <;> rfl

/-- What is spelled is scanned. -/
theorem scan_of_spells {text : List Char} {tokens : List Token} (h : Spells text tokens) :
    scan .between text = some tokens := by
  induction h with
  | done => rfl
  | space space _ ih =>
    rw [scan_of_silent_step (step_between (begin_of_isSpace space)), ih]
  | mark m _ ih =>
    have begun : Scan.begin m.char = ([.mark m], .between) := by
      rw [Scan.begin, Mark.of?_char]
    rw [scan_of_step (step_between begun), ih]
    rfl
  | @text body content text tokens quotes _ ih =>
    have ended : Scan.step '"' (.text content) =
        some ([.text (String.ofList content)], .between) := rfl
    rw [List.cons_append, scan_of_silent_step (by rfl), scan_quotes quotes, List.nil_append,
      scan_of_step ended, ih]
    rfl
  | @word chars w text tokens inside named ends _ ih =>
    have whole : scan .between (chars ++ text) = scan (.word chars) text := by
      cases chars with
      | nil => cases named
      | cons c chars =>
        have begun := begin_of_isWordChar (inside c List.mem_cons_self)
        rw [List.cons_append, scan_of_silent_step (step_between begun),
          scan_wordChars fun d hd => inside d (List.mem_cons_of_mem c hd)]
        rfl
    rw [whole, scan_word named ends, ih]
    rfl

/-- Tokens are scanned from a text exactly if the text spells them. -/
theorem scan_eq_some_iff {text : List Char} {tokens : List Token} :
    scan .between text = some tokens ↔ Spells text tokens := by
  constructor
  · intro h
    exact spells_of_scan .between h
  · exact scan_of_spells

end ReleaseSupport.Json
