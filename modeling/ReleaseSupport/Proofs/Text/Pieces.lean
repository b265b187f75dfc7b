/-!
Pieces of a text, of characters or of bytes, between the occurrences of a separator. A text is taken
apart piece by piece; no piece has a separator, and a stretch without a separator lies within one of
the pieces.
-/

set_option autoImplicit false
set_option relaxedAutoImplicit false

namespace ReleaseSupport.Text

variable {α : Type} [DecidableEq α] {x : α} {text stretch : List α}

/-- Induction on the pieces of a text, of which only the last is not ended by a separator. -/
@[elab_as_elim]
theorem pieces_induction {motive : List α → Prop} (x : α)
    (last : ∀ piece, x ∉ piece → motive piece)
    (more : ∀ piece rest, x ∉ piece → motive rest → motive (piece ++ x :: rest))
    (text : List α) : motive text := by
  by_cases separated : x ∈ text
  · obtain ⟨piece, rest, rfl, inside⟩ := List.eq_append_cons_of_mem separated
    exact more piece rest inside (pieces_induction x last more rest)
  · exact last text separated
termination_by text.length
decreasing_by
  subst text
  simp only [List.length_append, List.length_cons]
  omega

theorem not_mem_takeWhile_ne (x : α) (text : List α) : x ∉ text.takeWhile (· ≠ x) := by
  intro member
  have differs := List.all_eq_true.1 List.all_takeWhile x member
  exact of_decide_eq_true differs rfl

theorem takeWhile_append_separator {piece : List α} (inside : x ∉ piece) (rest : List α) :
    (piece ++ x :: rest).takeWhile (· ≠ x) = piece := by
  have kept : ∀ c ∈ piece, decide (c ≠ x) = true := by
    intro c member
    exact decide_eq_true (ne_of_mem_of_not_mem member inside)
  rw [List.takeWhile_append_of_pos kept, List.takeWhile_cons_of_neg (by simp), List.append_nil]

/-- A text tells its first piece from what follows. -/
theorem append_separator_inj {piece piece' rest rest' : List α} (inside : x ∉ piece)
    (inside' : x ∉ piece') (same : piece ++ x :: rest = piece' ++ x :: rest') :
    piece = piece' ∧ rest = rest' := by
  have first : piece = piece' := by
    rw [← takeWhile_append_separator inside rest, same, takeWhile_append_separator inside']
  rw [first] at same
  exact ⟨first, (List.cons.inj (List.append_cancel_left same)).2⟩

theorem not_mem_of_mem_splitOn {piece : List α} (h : piece ∈ text.splitOn x) : x ∉ piece := by
  induction text using pieces_induction x with
  | last whole inside =>
    rw [List.splitOn_eq_singleton inside, List.mem_singleton] at h
    rwa [h]
  | more first rest inside ih =>
    rw [List.splitOn_append_cons_self_of_not_mem inside, List.mem_cons] at h
    rcases h with rfl | later
    · exact inside
    · exact ih later

theorem mem_of_mem_splitOn {c : α} {piece : List α} (h : piece ∈ text.splitOn x)
    (member : c ∈ piece) : c ∈ text := by
  induction text using pieces_induction x with
  | last whole inside =>
    rw [List.splitOn_eq_singleton inside, List.mem_singleton] at h
    exact h ▸ member
  | more first rest inside ih =>
    rw [List.splitOn_append_cons_self_of_not_mem inside, List.mem_cons] at h
    rcases h with rfl | later
    · exact List.mem_append_left _ member
    · exact List.mem_append_right _ (List.mem_cons_of_mem _ (ih later))

omit [DecidableEq α] in
theorem eq_nil_of_prefix_cons (h : x ∉ stretch) {rest : List α}
    (begins : stretch <+: x :: rest) : stretch = [] := by
  cases stretch with
  | nil => rfl
  | cons c more =>
    obtain ⟨rfl, -⟩ := List.cons_prefix_cons.1 begins
    exact absurd List.mem_cons_self h

omit [DecidableEq α] in
theorem infix_append_separator_iff (h : x ∉ stretch) (piece rest : List α) :
    stretch <:+: piece ++ x :: rest ↔ stretch <:+: piece ∨ stretch <:+: rest := by
  constructor
  · intro inside
    rcases List.infix_append_iff.1 inside with before | after | ⟨first, second, rfl, ends, begins⟩
    · exact Or.inl before
    · rcases List.infix_cons_iff.1 after with begins | later
      · rw [eq_nil_of_prefix_cons h begins]
        exact Or.inl List.nil_infix
      · exact Or.inr later
    · have none : second = [] :=
        eq_nil_of_prefix_cons (fun member => h (List.mem_append_right _ member)) begins
      rw [none, List.append_nil]
      exact Or.inl ends.isInfix
  · rintro (before | after)
    · exact List.infix_append_iff.2 (Or.inl before)
    · exact List.infix_append_iff.2 (Or.inr (Or.inl (List.infix_cons after)))

/-- A stretch without a separator lies in a text if it lies in one of its pieces. -/
theorem infix_iff_exists_mem_splitOn (h : x ∉ stretch) (text : List α) :
    stretch <:+: text ↔ ∃ piece ∈ text.splitOn x, stretch <:+: piece := by
  induction text using pieces_induction x with
  | last whole inside =>
    rw [List.splitOn_eq_singleton inside]
    simp only [List.mem_singleton, exists_eq_left]
  | more first rest inside ih =>
    rw [List.splitOn_append_cons_self_of_not_mem inside, infix_append_separator_iff h, ih]
    simp only [List.mem_cons, exists_eq_or_imp]

end ReleaseSupport.Text
