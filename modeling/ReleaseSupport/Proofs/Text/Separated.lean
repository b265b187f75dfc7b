import Mathlib.Algebra.Group.Nat.Defs
import ReleaseSupport.Proofs.Text.Pieces
import ReleaseSupport.Proofs.Text.Utf8

/-!
Bytes and texts cut at separators. A byte below 128 that some bytes do not have is no character of
the text that is read from them, however broken they are, and where they have it, it ends what comes
before. So the text may be cut at such a character, or the bytes at such a byte: the pieces of the
text are what is read from the pieces of the bytes, and so are the fields of its lines.
-/

set_option autoImplicit false
set_option relaxedAutoImplicit false

namespace ReleaseSupport.Text

namespace Utf8

theorem toNat_charOfNat {n : Nat} (valid : n.isValidChar) : (Char.ofNat n).toNat = n := by
  unfold Char.ofNat
  rw [dif_pos valid]
  exact UInt32.toNat_ofNatLT

/-- Whether a state can complete characters from 128 on only, whichever bytes it takes. -/
def State.Leads : State → Prop
  | .start => True
  | .inside bits missing low high =>
    ∀ k rest, low.toNat ≤ k + 0x80 → k + 0x80 ≤ high.toNat → rest < 64 ^ missing →
      0x80 ≤ (bits * 64 + k) * 64 ^ missing + rest ∧
        ((bits * 64 + k) * 64 ^ missing + rest).isValidChar

theorem leads_of_lead? {b : UInt8} {state : State} (h : lead? b = some state) : state.Leads := by
  unfold lead? at h
  dsimp only at h
  repeat' split at h
  all_goals cases h
  -- Overlong forms, surrogates and code points past the last are left out by the second byte.
  all_goals
    intro k rest lower upper small
    simp only [Nat.isValidChar, UInt8.reduceToNat, Nat.reducePow] at lower upper small ⊢
    omega

theorem leads_begin (b : UInt8) :
    (begin b).2.Leads ∧ ∀ c ∈ (begin b).1, 0x80 ≤ c.toNat := by
  unfold begin
  cases led : lead? b with
  | some state => exact ⟨leads_of_lead? led, by simp⟩
  | none =>
    refine ⟨trivial, ?_⟩
    intro c member
    rw [List.mem_singleton.1 member]
    decide

theorem le_of_mem_finish {state : State} {c : Char} (h : c ∈ state.finish) : 0x80 ≤ c.toNat := by
  cases state with
  | start => cases h
  | inside =>
    rw [List.mem_singleton.1 h]
    decide

/-- A byte that a state waits for completes a character from 128 on, or leads to one. -/
theorem leads_step_inside {bits missing : Nat} {low high b : UInt8}
    (h : (State.inside bits missing low high).Leads) (long : ¬ b < 0x80)
    (within : low ≤ b ∧ b ≤ high) :
    (State.step b (.inside bits missing low high)).2.Leads ∧
      ∀ c ∈ (State.step b (.inside bits missing low high)).1, 0x80 ≤ c.toNat := by
  obtain ⟨k, value⟩ : ∃ k, b.toNat = k + 0x80 := by
    rw [UInt8.lt_iff_toNat_lt] at long
    change ¬ b.toNat < 0x80 at long
    exact ⟨b.toNat - 0x80, by omega⟩
  have lower : low.toNat ≤ k + 0x80 := value ▸ UInt8.le_iff_toNat_le.1 within.1
  have upper : k + 0x80 ≤ high.toNat := value ▸ UInt8.le_iff_toNat_le.1 within.2
  cases missing with
  | zero =>
    obtain ⟨large, valid⟩ := h k 0 lower upper (by decide)
    simp only [Nat.pow_zero, Nat.mul_one, Nat.add_zero] at large valid
    simp only [State.step, if_neg long, if_pos within, value, Nat.add_sub_cancel,
      List.mem_singleton]
    refine ⟨trivial, ?_⟩
    rintro c rfl
    rwa [toNat_charOfNat valid]
  | succ more =>
    simp only [State.step, if_neg long, if_pos within, value, Nat.add_sub_cancel,
      List.not_mem_nil, false_implies, implies_true, and_true]
    intro next rest lower' upper' small
    have bounded : next + 1 ≤ 64 := by
      change next + 0x80 ≤ 0xBF at upper'
      omega
    -- The next byte and the rest are a rest of one byte more.
    have whole : next * 64 ^ more + rest < 64 ^ (more + 1) := by
      have product := Nat.mul_le_mul_right (64 ^ more) bounded
      rw [Nat.add_mul, Nat.one_mul] at product
      rw [Nat.pow_succ]
      omega
    have same : ((bits * 64 + k) * 64 + next) * 64 ^ more + rest =
        (bits * 64 + k) * 64 ^ (more + 1) + (next * 64 ^ more + rest) := by
      rw [Nat.add_mul, Nat.mul_assoc, ← Nat.pow_succ', Nat.add_assoc]
    rw [same]
    exact h k _ lower upper whole

/-- Every byte leads on to characters from 128 on, and completes such characters, but for a byte
below 128, which also stands for itself. -/
theorem leads_step {state : State} (h : state.Leads) (b : UInt8) :
    (state.step b).2.Leads ∧
      ∀ c ∈ (state.step b).1, (b < 0x80 ∧ c = Char.ofNat b.toNat) ∨ 0x80 ≤ c.toNat := by
  by_cases short : b < 0x80
  · simp only [State.step, if_pos short, List.mem_append, List.mem_singleton]
    refine ⟨trivial, ?_⟩
    rintro c (broken | rfl)
    · exact Or.inr (le_of_mem_finish broken)
    · exact Or.inl ⟨short, rfl⟩
  · cases state with
    | start =>
      simp only [State.step, if_neg short]
      obtain ⟨leads, large⟩ := leads_begin b
      exact ⟨leads, fun c member => Or.inr (large c member)⟩
    | inside bits missing low high =>
      by_cases within : low ≤ b ∧ b ≤ high
      · obtain ⟨leads, large⟩ := leads_step_inside h short within
        exact ⟨leads, fun c member => Or.inr (large c member)⟩
      · simp only [State.step, if_neg short, if_neg within, List.mem_cons]
        obtain ⟨leads, large⟩ := leads_begin b
        refine ⟨leads, ?_⟩
        rintro c (rfl | member)
        · exact Or.inr (by decide)
        · exact Or.inr (large c member)

/-- A character below 128 is read from a byte that stands for it. -/
theorem mem_of_mem_decodeFrom {state : State} (h : state.Leads) {bytes : List UInt8} {c : Char}
    (member : c ∈ decodeFrom state bytes) (ascii : c.toNat < 0x80) :
    ∃ b ∈ bytes, b < 0x80 ∧ c = Char.ofNat b.toNat := by
  induction bytes generalizing state with
  | nil => exact absurd (le_of_mem_finish member) (Nat.not_le.2 ascii)
  | cons b bytes ih =>
    obtain ⟨leads, own⟩ := leads_step h b
    rcases List.mem_append.1 member with here | later
    · rcases own c here with ⟨short, same⟩ | large
      · exact ⟨b, List.mem_cons_self, short, same⟩
      · exact absurd large (Nat.not_le.2 ascii)
    · obtain ⟨b', member', found⟩ := ih leads later
      exact ⟨b', List.mem_cons_of_mem _ member', found⟩

section

variable {b : UInt8} (ascii : b < 0x80)
include ascii

theorem toNat_charOfNat_byte : (Char.ofNat b.toNat).toNat = b.toNat := by
  rw [UInt8.lt_iff_toNat_lt] at ascii
  change b.toNat < 0x80 at ascii
  exact toNat_charOfNat (Or.inl (by omega))

theorem not_mem_decodeFrom {bytes : List UInt8} (absent : b ∉ bytes) :
    Char.ofNat b.toNat ∉ decodeFrom .start bytes := by
  intro member
  have value := toNat_charOfNat_byte ascii
  have small : (Char.ofNat b.toNat).toNat < 0x80 := by
    rw [value]
    exact UInt8.lt_iff_toNat_lt.1 ascii
  have leads : State.start.Leads := trivial
  obtain ⟨b', present, ascii', same⟩ := mem_of_mem_decodeFrom leads member small
  rw [← Char.toNat_inj, value, toNat_charOfNat_byte ascii', UInt8.toNat_inj] at same
  exact absurd (same ▸ present) absent

/-- A byte below 128 ends whatever comes before it, which is read as if nothing followed. -/
theorem decodeFrom_append_cons (state : State) (piece rest : List UInt8) :
    decodeFrom state (piece ++ b :: rest) =
      decodeFrom state piece ++ Char.ofNat b.toNat :: decodeFrom .start rest := by
  induction piece generalizing state with
  | nil => exact decodeFrom_cons_of_lt ascii state rest
  | cons first piece ih =>
    rw [List.cons_append, decodeFrom, decodeFrom]
    dsimp only
    rw [ih, List.append_assoc]

/-- The pieces of a text are read from the pieces of its bytes. -/
theorem splitOn_decodeFrom (bytes : List UInt8) :
    (decodeFrom .start bytes).splitOn (Char.ofNat b.toNat) =
      (bytes.splitOn b).map (decodeFrom .start) := by
  induction bytes using pieces_induction b with
  | last piece inside =>
    rw [List.splitOn_eq_singleton inside,
      List.splitOn_eq_singleton (not_mem_decodeFrom ascii inside), List.map_singleton]
  | more piece rest inside ih =>
    rw [decodeFrom_append_cons ascii, List.splitOn_append_cons_self_of_not_mem inside,
      List.splitOn_append_cons_self_of_not_mem (not_mem_decodeFrom ascii inside), ih,
      List.map_cons]

end

end Utf8

section Cells

variable {α : Type} [DecidableEq α]

/-- The fields of the lines of a text. -/
def cells (newline tab : α) (text : List α) : List (List (List α)) :=
  (text.splitOn newline).map (List.splitOn tab)

/-- The text that has some fields in its lines. -/
def joinCells (newline tab : α) (rows : List (List (List α))) : List α :=
  [newline].intercalate (rows.map [tab].intercalate)

theorem cells_ne_nil {newline tab : α} {text : List α} : cells newline tab text ≠ [] := by
  rw [cells, Ne, List.map_eq_nil_iff]
  exact List.splitOn_ne_nil newline text

theorem ne_nil_of_mem_cells {newline tab : α} {text : List α} {row : List (List α)}
    (h : row ∈ cells newline tab text) : row ≠ [] := by
  obtain ⟨line, -, rfl⟩ := List.mem_map.1 h
  exact List.splitOn_ne_nil tab line

omit [DecidableEq α] in
theorem not_mem_intercalate {x tab : α} (differ : x ≠ tab) {row : List (List α)}
    (inside : ∀ field ∈ row, x ∉ field) : x ∉ [tab].intercalate row := by
  induction row with
  | nil => exact List.not_mem_nil
  | cons field row ih =>
    have own := inside field List.mem_cons_self
    have later := ih fun field' member => inside field' (List.mem_cons_of_mem _ member)
    by_cases last : row = []
    · rwa [last, List.intercalate_singleton]
    · rw [List.intercalate_cons_of_ne_nil last]
      simp [own, later, differ]

/-- Fields without separators are found again where they are put. -/
theorem cells_joinCells {newline tab : α} (differ : newline ≠ tab) {rows : List (List (List α))}
    (present : rows ≠ []) (filled : ∀ row ∈ rows, row ≠ [])
    (inside : ∀ row ∈ rows, ∀ field ∈ row, newline ∉ field ∧ tab ∉ field) :
    cells newline tab (joinCells newline tab rows) = rows := by
  have oneLine : ∀ line ∈ rows.map [tab].intercalate, newline ∉ line := by
    intro line member
    obtain ⟨row, hr, rfl⟩ := List.mem_map.1 member
    exact not_mem_intercalate differ fun field hf => (inside row hr field hf).1
  have lines : (joinCells newline tab rows).splitOn newline = rows.map [tab].intercalate :=
    List.splitOn_intercalate newline oneLine (by simpa using present)
  rw [cells, lines, List.map_map]
  refine (List.map_congr_left ?_).trans rows.map_id
  intro row hr
  exact List.splitOn_intercalate tab (fun field hf => (inside row hr field hf).2) (filled row hr)

end Cells

/-- What is read from some bytes has the fields that are read from the fields of the bytes. -/
theorem Utf8.cells_decode (bytes : List UInt8) :
    cells '\n' '\t' (decode bytes).toList =
      (cells 0x0A 0x09 bytes).map (List.map fun field => (decode field).toList) := by
  have lines : (decode bytes).toList.splitOn '\n' =
      (bytes.splitOn 0x0A).map (decodeFrom .start) := by
    rw [decode, String.toList_ofList]
    exact splitOn_decodeFrom (b := 0x0A) (by decide) bytes
  have fields (line : List UInt8) : (decodeFrom .start line).splitOn '\t' =
      (line.splitOn 0x09).map fun field => (decode field).toList := by
    simp only [decode, String.toList_ofList]
    exact splitOn_decodeFrom (b := 0x09) (by decide) line
  rw [cells, cells, lines, List.map_map, List.map_map]
  exact List.map_congr_left fun line _ => fields line

end ReleaseSupport.Text
