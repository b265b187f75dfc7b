import ReleaseSupport.Proofs.Json.Scanner

/-!
A reader of JSON. It parses the tokens of a text with a stack of the lists and objects that are
still open. It reads a value from a text exactly if the text denotes that value, so no text denotes
two values.
-/

set_option autoImplicit false
set_option relaxedAutoImplicit false

namespace ReleaseSupport.Json

/-- A list or an object that is still open: the elements so far, or the members so far and the key
of the next one. -/
inductive Frame where
  | list (items : List Value)
  | object (members : List (String × Value)) (key : String)

/-- What the parser waits for, with the open lists and objects from the inside out: a value; a key;
the colon after a key; or what may follow a value. -/
inductive Parse where
  | wantValue (outer : List Frame)
  | wantKey (members : List (String × Value)) (outer : List Frame)
  | wantColon (members : List (String × Value)) (key : String) (outer : List Frame)
  | after (value : Value) (outer : List Frame)

namespace Parse

def step : Parse → Token → Option Parse
  | .wantValue outer, .word w => some (.after (.word w) outer)
  | .wantValue outer, .text s => some (.after (.text s) outer)
  | .wantValue outer, .mark .openList => some (.wantValue (.list [] :: outer))
  | .wantValue outer, .mark .openObject => some (.wantKey [] outer)
  | .wantValue (.list [] :: outer), .mark .closeList => some (.after (.list []) outer)
  | .wantKey members outer, .text key => some (.wantColon members key outer)
  | .wantKey [] outer, .mark .closeObject => some (.after (.object []) outer)
  | .wantColon members key outer, .mark .colon => some (.wantValue (.object members key :: outer))
  | .after value (.list items :: outer), .mark .comma =>
    some (.wantValue (.list (items ++ [value]) :: outer))
  | .after value (.list items :: outer), .mark .closeList =>
    some (.after (.list (items ++ [value])) outer)
  | .after value (.object members key :: outer), .mark .comma =>
    some (.wantKey (members ++ [(key, value)]) outer)
  | .after value (.object members key :: outer), .mark .closeObject =>
    some (.after (.object (members ++ [(key, value)])) outer)
  | _, _ => none

def run (state : Parse) (tokens : List Token) : Option Parse := tokens.foldlM step state

def finish : Parse → Option Value
  | .after value [] => some value
  | _ => none

theorem run_cons (state : Parse) (t : Token) (ts : List Token) :
    state.run (t :: ts) = (state.step t).bind fun next => next.run ts := List.foldlM_cons

theorem run_append (state : Parse) (ts us : List Token) :
    state.run (ts ++ us) = (state.run ts).bind fun next => next.run us := List.foldlM_append

end Parse

/-- The value that some tokens are. -/
def parse (tokens : List Token) : Option Value :=
  (Parse.run (.wantValue []) tokens).bind Parse.finish

/-- The tokens of a list up to its last element. -/
def openItemTokens : List Value → List Token
  | [] => [.mark .openList]
  | item :: items => .mark .openList :: item.tokens ++ moreItemTokens items

/-- The tokens of an object up to its last member. -/
def openMemberTokens : List (String × Value) → List Token
  | [] => [.mark .openObject]
  | (key, value) :: members =>
    .mark .openObject :: .text key :: .mark .colon :: value.tokens ++ moreMemberTokens members

/-- What separates some elements or members from the next. -/
def separator {α : Type} : List α → List Token
  | [] => []
  | _ :: _ => [.mark .comma]

@[simp] theorem Value.tokens_word (w : Word) : (Value.word w).tokens = [.word w] := by
  rw [Value.tokens]

@[simp] theorem Value.tokens_text (s : String) : (Value.text s).tokens = [.text s] := by
  rw [Value.tokens]

@[simp] theorem Value.tokens_list (items : List Value) :
    (Value.list items).tokens = openItemTokens items ++ [.mark .closeList] := by
  cases items <;> rfl

@[simp] theorem Value.tokens_object (members : List (String × Value)) :
    (Value.object members).tokens = openMemberTokens members ++ [.mark .closeObject] := by
  cases members <;> rfl

@[simp] theorem openItemTokens_nil : openItemTokens [] = [.mark .openList] := rfl

@[simp] theorem openMemberTokens_nil : openMemberTokens [] = [.mark .openObject] := rfl

@[simp] theorem separator_nil {α : Type} : separator ([] : List α) = [] := rfl

@[simp] theorem separator_append_singleton {α : Type} (xs : List α) (x : α) :
    separator (xs ++ [x]) = [.mark .comma] := by
  cases xs <;> rfl

@[simp] theorem openItemTokens_append (items : List Value) (item : Value) :
    openItemTokens (items ++ [item]) = openItemTokens items ++ separator items ++ item.tokens := by
  have more (items : List Value) :
      moreItemTokens (items ++ [item]) = moreItemTokens items ++ .mark .comma :: item.tokens := by
    induction items with
    | nil => simp [moreItemTokens]
    | cons first items ih => simp [moreItemTokens, ih]
  cases items with
  | nil => simp [openItemTokens, moreItemTokens]
  | cons first items => simp [openItemTokens, more, separator]

@[simp] theorem openMemberTokens_append (members : List (String × Value)) (key : String)
    (value : Value) :
    openMemberTokens (members ++ [(key, value)]) =
      openMemberTokens members ++ separator members ++
        .text key :: .mark .colon :: value.tokens := by
  have more (members : List (String × Value)) :
      moreMemberTokens (members ++ [(key, value)]) =
        moreMemberTokens members ++ .mark .comma :: .text key :: .mark .colon :: value.tokens := by
    induction members with
    | nil => simp [moreMemberTokens]
    | cons first members ih => simp [moreMemberTokens, ih]
  cases members with
  | nil => simp [openMemberTokens, moreMemberTokens]
  | cons first members => simp [openMemberTokens, more, separator]

def Frame.tokens : Frame → List Token
  | .list items => openItemTokens items ++ separator items
  | .object members key =>
    openMemberTokens members ++ separator members ++ [.text key, .mark .colon]

/-- The tokens of open lists and objects, which stand from the inside out. -/
def outerTokens : List Frame → List Token
  | [] => []
  | frame :: outer => outerTokens outer ++ frame.tokens

namespace Parse

/-- The tokens that the parser has read. -/
def tokens : Parse → List Token
  | .wantValue outer => outerTokens outer
  | .wantKey members outer => outerTokens outer ++ openMemberTokens members ++ separator members
  | .wantColon members key outer =>
    outerTokens outer ++ openMemberTokens members ++ separator members ++ [.text key]
  | .after value outer => outerTokens outer ++ value.tokens

/-- The parser loses no token that it reads. -/
theorem tokens_of_step {state next : Parse} {t : Token} (h : state.step t = some next) :
    next.tokens = state.tokens ++ [t] := by
  unfold step at h
  split at h
  all_goals cases h
  all_goals simp [tokens, outerTokens, Frame.tokens]

theorem tokens_of_run {state last : Parse} {ts : List Token} (h : state.run ts = some last) :
    last.tokens = state.tokens ++ ts := by
  induction ts generalizing state with
  | nil =>
    obtain rfl := Option.some.inj h
    rw [List.append_nil]
  | cons t ts ih =>
    rw [run_cons] at h
    obtain ⟨next, first, later⟩ := Option.bind_eq_some_iff.1 h
    rw [ih later, tokens_of_step first, List.append_assoc, List.singleton_append]

-- The elements and members that were read before are in the innermost frame, so the statements on
-- the rest of a list or an object are for any such frame.
mutual

/-- The parser takes the tokens of a value, whatever it stands in. -/
theorem run_tokens (value : Value) (outer : List Frame) :
    run (.wantValue outer) value.tokens = some (.after value outer) :=
  match value with
  | .word _ => rfl
  | .text _ => rfl
  | .list [] => rfl
  | .list (item :: items) => by
    rw [Value.tokens, List.append_assoc, List.cons_append, run_cons]
    change run (.wantValue (.list [] :: outer)) (item.tokens ++ _) = _
    rw [run_append, run_tokens item]
    exact run_moreItemTokens items [] item outer
  | .object [] => rfl
  | .object ((key, value) :: members) => by
    rw [Value.tokens, List.append_assoc, List.cons_append, List.cons_append, List.cons_append,
      run_cons]
    change run (.wantValue (.object [] key :: outer)) (value.tokens ++ _) = _
    rw [run_append, run_tokens value]
    exact run_moreMemberTokens members [] key value outer

theorem run_moreItemTokens (items before : List Value) (item : Value) (outer : List Frame) :
    run (.after item (.list before :: outer)) (moreItemTokens items ++ [.mark .closeList]) =
      some (.after (.list (before ++ item :: items)) outer) :=
  match items with
  | [] => rfl
  | next :: items => by
    rw [moreItemTokens, List.cons_append, List.cons_append, List.append_assoc, run_cons]
    change run (.wantValue (.list (before ++ [item]) :: outer)) (next.tokens ++ _) = _
    rw [run_append, run_tokens next]
    have rest := run_moreItemTokens items (before ++ [item]) next outer
    rwa [List.append_assoc, List.singleton_append] at rest

theorem run_moreMemberTokens (members before : List (String × Value)) (key : String)
    (value : Value) (outer : List Frame) :
    run (.after value (.object before key :: outer))
        (moreMemberTokens members ++ [.mark .closeObject]) =
      some (.after (.object (before ++ (key, value) :: members)) outer) :=
  match members with
  | [] => rfl
  | (nextKey, next) :: members => by
    rw [moreMemberTokens, List.append_assoc, List.cons_append, List.cons_append, List.cons_append,
      run_cons]
    change run (.wantValue (.object (before ++ [(key, value)]) nextKey :: outer))
      (next.tokens ++ _) = _
    rw [run_append, run_tokens next]
    have rest := run_moreMemberTokens members (before ++ [(key, value)]) nextKey next outer
    rwa [List.append_assoc, List.singleton_append] at rest

end

end Parse

/-- Tokens are parsed as a value exactly if they are its tokens. -/
theorem parse_eq_some_iff {ts : List Token} {value : Value} :
    parse ts = some value ↔ ts = value.tokens := by
  constructor
  · intro h
    obtain ⟨last, run, finished⟩ := Option.bind_eq_some_iff.1 h
    have read := Parse.tokens_of_run run
    unfold Parse.finish at finished
    split at finished
    · obtain rfl := Option.some.inj finished
      exact read.symm
    · cases finished
  · rintro rfl
    rw [parse, Parse.run_tokens]
    rfl

/-- The value of a JSON document. -/
def read (document : String) : Option Value := (scan .between document.toList).bind parse

/-- A value is read from a text exactly if the text denotes it. -/
theorem read_eq_some_iff {document : String} {value : Value} :
    read document = some value ↔ Denotes document value := by
  rw [read, Denotes]
  constructor
  · intro h
    obtain ⟨tokens, scanned, parsed⟩ := Option.bind_eq_some_iff.1 h
    obtain rfl := parse_eq_some_iff.1 parsed
    exact scan_eq_some_iff.1 scanned
  · intro h
    rw [scan_eq_some_iff.2 h]
    exact parse_eq_some_iff.2 rfl

theorem Denotes.unique {document : String} {v w : Value} (hv : Denotes document v)
    (hw : Denotes document w) : v = w := by
  rw [← read_eq_some_iff] at hv hw
  exact Option.some.inj (hv.symm.trans hw)

example : read "[1, \x7b\"a\\n\":null\x7d ]" =
    some (.list [.word (.number "1"), .object [("a\n", .word .null)]]) := by
  rfl

end ReleaseSupport.Json
