import ReleaseSupport.Proofs.Json.Reader

/-!
Printed documents. Whatever its strings contain, a printed document denotes exactly the value that
was printed, and is read back as that value.
-/

set_option autoImplicit false
set_option relaxedAutoImplicit false

namespace ReleaseSupport.Json

mutual

/-- The value that a document is the printed form of. -/
def value : Json → Value
  | .text s => .text s
  | .list items => .list (itemValues items)
  | .object members => .object (memberValues members)

def itemValues : List Json → List Value
  | [] => []
  | item :: items => item.value :: itemValues items

def memberValues : List (String × Json) → List (String × Value)
  | [] => []
  | (key, member) :: members => (key, member.value) :: memberValues members

end

theorem itemValues_eq (items : List Json) : itemValues items = items.map value := by
  induction items with
  | nil => rfl
  | cons item items ih => rw [itemValues, ih, List.map_cons]

/-- The control characters are escaped by their code points. -/
theorem unescape?_control {c : Char} (h : c.toNat < 0x20) :
    unescape? ['u', '0', '0', Nat.digitChar (c.toNat / 16), Nat.digitChar (c.toNat % 16)] =
      some c := by
  have every : ∀ n < 0x20, unescape?
      ['u', '0', '0', Nat.digitChar (n / 16), Nat.digitChar (n % 16)] = some (Char.ofNat n) := by
    decide
  rw [every _ h, Char.ofNat_toNat]

theorem form_stringChar (c : Char) : Form (stringChar c) c := by
  unfold stringChar
  split_ifs with quote backslash backspace formFeed lineFeed carriageReturn tab control
  · rw [quote]
    exact .escape rfl
  · rw [backslash]
    exact .escape rfl
  · rw [backspace]
    exact .escape rfl
  · rw [formFeed]
    exact .escape rfl
  · rw [lineFeed]
    exact .escape rfl
  · rw [carriageReturn]
    exact .escape rfl
  · rw [tab]
    exact .escape rfl
  · exact .escape (unescape?_control control)
  · have plain : isPlain c = true := by
      simp only [isPlain, Bool.and_eq_true, decide_eq_true_eq, bne_iff_ne]
      exact ⟨⟨Nat.not_lt.1 control, quote⟩, backslash⟩
    exact .plain plain

theorem quotes_flatMap_stringChar (content : List Char) :
    Quotes (content.flatMap stringChar) content := by
  refine ⟨content.map stringChar, ?_, List.flatMap_def⟩
  rw [List.forall₂_map_left_iff, List.forall₂_same]
  exact fun c _ => form_stringChar c

section

variable {text : List Char} {tokens : List Token}

theorem spells_stringChars (s : String) (later : Spells text tokens) :
    Spells (stringChars s ++ text) (.text s :: tokens) := by
  have whole := Spells.text (quotes_flatMap_stringChar s.toList) later
  rw [String.ofList_toList] at whole
  simpa [stringChars] using whole

theorem spells_space (later : Spells text tokens) : Spells (' ' :: text) tokens :=
  .space (by decide) later

theorem spells_newline (depth : Nat) (later : Spells text tokens) :
    Spells (newline depth ++ text) tokens := by
  unfold newline
  refine .space (by decide) ?_
  induction 2 * depth with
  | zero => exact later
  | succ n ih =>
    rw [List.replicate_succ]
    exact spells_space ih

end

mutual

/-- A printed document spells the tokens of its value, whatever follows. -/
theorem spells_chars (depth : Nat) (j : Json) {text : List Char} {tokens : List Token}
    (later : Spells text tokens) : Spells (chars depth j ++ text) (j.value.tokens ++ tokens) :=
  match j with
  | .text s => by
    rw [chars, value, Value.tokens_text]
    exact spells_stringChars s later
  | .list [] => .mark .openList (.mark .closeList later)
  | .list (item :: items) => by
    have closed := spells_newline depth (.mark .closeList later)
    have rest := spells_moreItems (depth + 1) items closed
    have first := spells_chars (depth + 1) item rest
    have whole := Spells.mark .openList (spells_newline (depth + 1) first)
    simpa [chars, value, itemValues, openItemTokens, Mark.char] using whole
  | .object [] => .mark .openObject (.mark .closeObject later)
  | .object ((key, member) :: members) => by
    have closed := spells_newline depth (.mark .closeObject later)
    have rest := spells_moreMembers (depth + 1) members closed
    have first := spells_space (spells_chars (depth + 1) member rest)
    have named := spells_stringChars key (.mark .colon first)
    have whole := Spells.mark .openObject (spells_newline (depth + 1) named)
    simpa [chars, value, memberValues, openMemberTokens, Mark.char] using whole

theorem spells_moreItems (depth : Nat) (items : List Json) {text : List Char}
    {tokens : List Token} (later : Spells text tokens) :
    Spells (moreItems depth items ++ text) (moreItemTokens (itemValues items) ++ tokens) :=
  match items with
  | [] => later
  | item :: items => by
    have rest := spells_moreItems depth items later
    have whole := Spells.mark .comma (spells_newline depth (spells_chars depth item rest))
    simpa [moreItems, itemValues, moreItemTokens, Mark.char] using whole

theorem spells_moreMembers (depth : Nat) (members : List (String × Json)) {text : List Char}
    {tokens : List Token} (later : Spells text tokens) :
    Spells (moreMembers depth members ++ text)
      (moreMemberTokens (memberValues members) ++ tokens) :=
  match members with
  | [] => later
  | (key, member) :: members => by
    have rest := spells_moreMembers depth members later
    have first := spells_space (spells_chars depth member rest)
    have named := spells_stringChars key (.mark .colon first)
    have whole := Spells.mark .comma (spells_newline depth named)
    simpa [moreMembers, memberValues, moreMemberTokens, Mark.char] using whole

end

/-- A printed document denotes what was printed. -/
theorem denotes_render (j : Json) : Denotes j.render j.value := by
  have whole := spells_chars 0 j .done
  rw [List.append_nil, List.append_nil] at whole
  rwa [Denotes, render, String.toList_ofList]

theorem read_render (j : Json) : read j.render = some j.value :=
  read_eq_some_iff.2 (denotes_render j)

end ReleaseSupport.Json
