import Mathlib.Data.List.Forall2

/-!
Lists whose elements go in pairs, the first with the first and so on. Every element knows that it is
one of its list, functions that agree on the pairs agree on the lists, and where the pairs stop
short, they do so at a first element.
-/

set_option autoImplicit false
set_option relaxedAutoImplicit false

namespace ReleaseSupport

variable {α β γ : Type}

theorem forall₂_with_mem {R : α → β → Prop} {xs : List α} {ys : List β}
    (h : List.Forall₂ R xs ys) : List.Forall₂ (fun x y => x ∈ xs ∧ R x y) xs ys :=
  (List.forall₂_and_left _ _).2 ⟨fun _ hx => hx, h⟩

theorem exists_left_of_forall₂ {R : α → β → Prop} {xs : List α} {ys : List β}
    (h : List.Forall₂ R xs ys) {y : β} (hy : y ∈ ys) : ∃ x ∈ xs, R x y := by
  induction h with
  | nil => cases hy
  | cons first _ ih =>
    rcases List.mem_cons.1 hy with rfl | hy
    · exact ⟨_, List.mem_cons_self, first⟩
    · obtain ⟨x, hx, own⟩ := ih hy
      exact ⟨x, List.mem_cons_of_mem _ hx, own⟩

theorem map_eq_map_of_forall₂ {f : α → γ} {g : β → γ} {xs : List α} {ys : List β}
    (h : List.Forall₂ (fun x y => f x = g y) xs ys) : xs.map f = ys.map g := by
  induction h with
  | nil => rfl
  | cons first _ ih => rw [List.map_cons, List.map_cons, first, ih]

/-- Where all that one side of the pairs gives is given by the other side too, it comes in the same
order. -/
theorem filterMap_sublist_of_forall₂ {f : α → Option γ} {g : β → Option γ} {xs : List α}
    {ys : List β} (h : List.Forall₂ (fun x y => ∀ z, g y = some z → f x = some z) xs ys) :
    (ys.filterMap g).Sublist (xs.filterMap f) := by
  induction h with
  | nil => exact List.Sublist.refl []
  | @cons x y xs ys first _ ih =>
    cases own : g y with
    | some z =>
      rw [List.filterMap_cons_some own, List.filterMap_cons_some (first z own)]
      exact ih.cons_cons z
    | none =>
      rw [List.filterMap_cons_none own]
      exact ih.trans ((List.sublist_cons_self x xs).filterMap f)

/-- Either all elements have a partner, or the ones before some first element do, which has none. -/
theorem forall₂_or_first (R : α → β → Prop) (xs : List α) :
    (∃ ys, List.Forall₂ R xs ys) ∨
      ∃ before x after ys, xs = before ++ x :: after ∧ List.Forall₂ R before ys ∧ ¬ ∃ y, R x y := by
  induction xs with
  | nil => exact Or.inl ⟨[], List.Forall₂.nil⟩
  | cons x xs ih =>
    by_cases hx : ∃ y, R x y
    · obtain ⟨y, hy⟩ := hx
      rcases ih with ⟨ys, all⟩ | ⟨before, first, after, ys, rfl, some, none⟩
      · exact Or.inl ⟨y :: ys, List.Forall₂.cons hy all⟩
      · exact Or.inr ⟨x :: before, first, after, y :: ys, rfl, List.Forall₂.cons hy some, none⟩
    · exact Or.inr ⟨[], x, xs, [], rfl, List.Forall₂.nil, hx⟩

end ReleaseSupport
