/-!
Computations that may be refused. Naming the cause of a refusal anew changes neither whether there
is one nor the value otherwise, and a traversal is refused exactly at the first element that its
step refuses.
-/

set_option autoImplicit false
set_option relaxedAutoImplicit false

namespace ReleaseSupport

variable {α β ε ε' : Type}

theorem mapError_eq_ok_iff {x : Except ε α} {f : ε → ε'} {a : α} :
    x.mapError f = .ok a ↔ x = .ok a := by
  cases x with
  | error e => constructor <;> intro h <;> cases h
  | ok b => constructor <;> intro h <;> cases h <;> rfl

theorem mapError_eq_error_iff {x : Except ε α} {f : ε → ε'} {e' : ε'} :
    x.mapError f = .error e' ↔ ∃ e, x = .error e ∧ f e = e' := by
  constructor
  · intro h
    cases x with
    | error e => exact ⟨e, rfl, Except.error.inj h⟩
    | ok a => cases h
  · rintro ⟨e, rfl, rfl⟩
    rfl

theorem toOption_eq_some_iff {x : Except ε α} {a : α} : x.toOption = some a ↔ x = .ok a := by
  cases x <;> simp [Except.toOption]

theorem map_toOption_eq_some_iff {x : Except ε α} {f : α → β} {b : β} :
    x.toOption.map f = some b ↔ ∃ a, x = .ok a ∧ f a = b := by
  simp only [Option.map_eq_some_iff, toOption_eq_some_iff]

theorem bind_eq_ok_iff {x : Except ε α} {f : α → Except ε β} {b : β} :
    x >>= f = .ok b ↔ ∃ a, x = .ok a ∧ f a = .ok b := by
  cases x <;> simp [bind, Except.bind]

/-- A traversal with a state fails exactly at the first element that its step refuses. -/
theorem foldlM_eq_error_iff {step : β → α → Except ε β} {xs : List α} {b : β} {e : ε} :
    xs.foldlM step b = .error e ↔
      ∃ before x after middle, xs = before ++ x :: after ∧
        before.foldlM step b = .ok middle ∧ step middle x = .error e := by
  constructor
  · intro h
    induction xs generalizing b with
    | nil => cases h
    | cons y xs ih =>
      rw [List.foldlM_cons] at h
      cases first : step b y with
      | error e' =>
        rw [first] at h
        cases h
        exact ⟨[], y, xs, b, rfl, rfl, first⟩
      | ok next =>
        rw [first] at h
        obtain ⟨before, x, after, middle, rfl, run, failed⟩ := ih h
        refine ⟨y :: before, x, after, middle, rfl, ?_, failed⟩
        rw [List.foldlM_cons, first]
        exact run
  · rintro ⟨before, x, after, middle, rfl, run, failed⟩
    rw [List.foldlM_append, run]
    change (x :: after).foldlM step middle = .error e
    rw [List.foldlM_cons, failed]
    rfl

end ReleaseSupport
