import ReleaseSupport.Proofs.Report.Shows
import ReleaseSupport.Report

/-!
Reports with room for so many bytes. A script whose text fits runs as it does without a limit.
Any other script runs the same way up to the write that does not fit, of which it writes what fits,
and ends there. In which pieces a text is written makes no difference.
-/

set_option autoImplicit false
set_option relaxedAutoImplicit false

namespace ReleaseSupport.Report

open ReleaseSupport.Calendar
open ReleaseSupport.Text

variable {ε κ α : Type}

def Event.bytes : Event → List UInt8
  | .wrote bytes => bytes
  | _ => []

/-- Whether a run is what becomes of another one if there is room for so many bytes only. -/
inductive Run.Within : Nat → Run ε κ α → Run ε κ α → Prop
  | fits {room : Nat} {run : Run ε κ α} (h : run.output.length ≤ room) : Within room run run
  | full {room : Nat} {before after : List Event} {bytes : List UInt8}
    {result : Except (Failure ε κ) α} (fits : (before.flatMap Event.bytes).length ≤ room)
    (exceeds : room < (before.flatMap Event.bytes).length + bytes.length) :
    Within room
      ⟨before ++ [.wrote (bytes.take (room - (before.flatMap Event.bytes).length))],
        .error .outputFull⟩
      ⟨before ++ .wrote bytes :: after, result⟩

namespace Run

theorem output_eq (run : Run ε κ α) : run.output = run.events.flatMap Event.bytes := rfl

theorem output_after (event : Event) (run : Run ε κ α) :
    (run.after event).output = event.bytes ++ run.output := rfl

namespace Within

variable {room : Nat} {limited whole : Run ε κ α}

/-- What happens before takes its own room. -/
theorem after (h : Within room limited whole) (event : Event) :
    Within (event.bytes.length + room) (limited.after event) (whole.after event) := by
  cases h with
  | fits h =>
    refine .fits ?_
    rw [output_after, List.length_append]
    omega
  | @full before after bytes result fits exceeds =>
    have used : ((event :: before).flatMap Event.bytes).length =
        event.bytes.length + (before.flatMap Event.bytes).length := by
      rw [List.flatMap_cons, List.length_append]
    have cut := @full ε κ α (event.bytes.length + room) (event :: before) after bytes result
      (by omega) (by omega)
    rw [used, Nat.add_sub_add_left] at cut
    exact cut

theorem output_eq (h : Within room limited whole) : limited.output = whole.output.take room := by
  cases h with
  | fits h => rw [List.take_of_length_le h]
  | @full before after bytes result fits exceeds =>
    simp only [Run.output_eq, List.flatMap_append, List.flatMap_cons, List.flatMap_nil,
      List.append_nil, Event.bytes]
    rw [List.take_append, List.take_of_length_le fits, List.take_append_of_le_length]
    omega

theorem eq_of_le (h : Within room limited whole) (fits : whole.output.length ≤ room) :
    limited = whole := by
  cases h with
  | fits => rfl
  | full _ exceeds =>
    simp only [Run.output_eq, List.flatMap_append, List.flatMap_cons, List.length_append,
      Event.bytes] at fits
    omega

theorem result_eq_of_lt (h : Within room limited whole) (exceeds : room < whole.output.length) :
    limited.result = .error .outputFull := by
  cases h with
  | fits fits => omega
  | full => rfl

theorem calls_prefix (h : Within room limited whole) : limited.calls <+: whole.calls := by
  cases h with
  | fits => exact List.prefix_rfl
  | @full before after bytes result =>
    simp only [calls, List.filterMap_append, List.filterMap_cons, List.filterMap_nil,
      List.append_nil]
    exact List.prefix_append _ _

end Within

end Run

namespace Script

variable {client : Query → Except κ String}

theorem run_note (text : String) (next : Script ε α) (room : Option Nat) :
    (note text next).run client room = (next.run client room).after (.noted text) := by
  rw [run]

theorem run_write_of_le {text : String} (next : Script ε α) {room : Nat}
    (fits : (Utf8.encode text).length ≤ room) :
    (write text next).run client (some room) =
      (next.run client (some (room - (Utf8.encode text).length))).after
        (.wrote (Utf8.encode text)) := by
  rw [run]
  exact if_pos fits

theorem run_write_of_lt {text : String} (next : Script ε α) {room : Nat}
    (exceeds : room < (Utf8.encode text).length) :
    (write text next).run client (some room) =
      ⟨[.wrote ((Utf8.encode text).take room)], .error .outputFull⟩ := by
  rw [run]
  exact if_neg (Nat.not_le.2 exceeds)

/-- A script runs in any room as it does without a limit, up to the write that does not fit. -/
theorem within_run (script : Script ε α) (room : Nat) :
    (script.run client (some room)).Within room (script.run client none) := by
  induction script generalizing room with
  | done value => exact .fits (Nat.zero_le room)
  | fail error => exact .fits (Nat.zero_le room)
  | ask query next ih =>
    cases answered : client query with
    | error error =>
      rw [run_ask_of_error answered, run_ask_of_error answered]
      exact .fits (Nat.zero_le room)
    | ok answer =>
      rw [run_ask_of_ok answered, run_ask_of_ok answered]
      simpa [Event.bytes] using (ih answer room).after (.called query)
  | write text next ih =>
    rcases Nat.lt_or_ge room (Utf8.encode text).length with exceeds | fits
    · rw [run_write_of_lt next exceeds]
      exact @Run.Within.full ε κ α room [] (next.run client none).events (Utf8.encode text)
        (next.run client none).result (Nat.zero_le room) (by simpa using exceeds)
    · obtain ⟨rest, rfl⟩ := Nat.exists_eq_add_of_le fits
      rw [run_write_of_le next fits, Nat.add_sub_cancel_left]
      exact (ih rest).after (.wrote (Utf8.encode text))
  | note text next ih =>
    rw [run_note, run_note]
    simpa [Event.bytes] using (ih room).after (.noted text)

/-- A way to write any text in pieces that make it up. -/
structure Division where
  pieces : String → List String
  join_pieces : ∀ text, String.join (pieces text) = text

/-- The same steps with every text written in pieces. -/
def divided (d : Division) : Script ε α → Script ε α
  | done value => done value
  | fail error => fail error
  | ask query next => ask query fun answer => (next answer).divided d
  | write text next => (d.pieces text).foldr write (next.divided d)
  | note text next => note text (next.divided d)

end Script

/-- Whether two runs make the same queries, write the same bytes and end the same way. -/
structure Run.Alike (a b : Run ε κ α) : Prop where
  calls_eq : a.calls = b.calls
  output_eq : a.output = b.output
  result_eq : a.result = b.result

namespace Run.Alike

variable {a b c : Run ε κ α}

theorem refl (a : Run ε κ α) : a.Alike a := ⟨rfl, rfl, rfl⟩

theorem symm (h : a.Alike b) : b.Alike a :=
  ⟨h.calls_eq.symm, h.output_eq.symm, h.result_eq.symm⟩

theorem trans (hab : a.Alike b) (hbc : b.Alike c) : a.Alike c :=
  ⟨hab.calls_eq.trans hbc.calls_eq, hab.output_eq.trans hbc.output_eq,
    hab.result_eq.trans hbc.result_eq⟩

theorem after (h : a.Alike b) (event : Event) : (a.after event).Alike (b.after event) where
  calls_eq := by
    have same := h.calls_eq
    cases event <;> simp_all [calls, Run.after]
  output_eq := by rw [output_after, output_after, h.output_eq]
  result_eq := h.result_eq

end Run.Alike

namespace Script

variable {client : Query → Except κ String}

/-- Two texts in a row are written as one is. -/
theorem alike_run_write_append (a b : String) (next : Script ε α) (room : Option Nat) :
    ((write a (write b next)).run client room).Alike ((write (a ++ b) next).run client room) := by
  have bytes : Utf8.encode (a ++ b) = Utf8.encode a ++ Utf8.encode b := encode_append a b
  have length : (Utf8.encode (a ++ b)).length =
      (Utf8.encode a).length + (Utf8.encode b).length := by
    rw [bytes, List.length_append]
  cases room with
  | none =>
    refine ⟨rfl, ?_, rfl⟩
    change Utf8.encode a ++ (Utf8.encode b ++ _) = Utf8.encode (a ++ b) ++ _
    rw [bytes, List.append_assoc]
  | some room =>
    rcases Nat.lt_or_ge room (Utf8.encode a).length with exceeds | fits
    · have exceedsBoth : room < (Utf8.encode (a ++ b)).length := by omega
      rw [run_write_of_lt _ exceeds, run_write_of_lt _ exceedsBoth, bytes,
        List.take_append_of_le_length (Nat.le_of_lt exceeds)]
      exact .refl _
    obtain ⟨rest, rfl⟩ := Nat.exists_eq_add_of_le fits
    rw [run_write_of_le _ fits, Nat.add_sub_cancel_left]
    rcases Nat.lt_or_ge rest (Utf8.encode b).length with exceeds | fitsToo
    · have exceedsBoth : (Utf8.encode a).length + rest < (Utf8.encode (a ++ b)).length := by
        omega
      rw [run_write_of_lt _ exceeds, run_write_of_lt _ exceedsBoth]
      refine ⟨rfl, ?_, rfl⟩
      change Utf8.encode a ++ ((Utf8.encode b).take rest ++ []) =
        (Utf8.encode (a ++ b)).take ((Utf8.encode a).length + rest) ++ []
      rw [bytes, List.append_nil, List.append_nil, List.take_length_add_append]
    · have fitBoth : (Utf8.encode (a ++ b)).length ≤ (Utf8.encode a).length + rest := by omega
      rw [run_write_of_le _ fitsToo, run_write_of_le _ fitBoth, length, Nat.add_sub_add_left, bytes]
      refine ⟨rfl, ?_, rfl⟩
      change Utf8.encode a ++ (Utf8.encode b ++ _) = (Utf8.encode a ++ Utf8.encode b) ++ _
      rw [List.append_assoc]

theorem alike_run_write {a b : Script ε α} (text : String)
    (h : ∀ room, (a.run client room).Alike (b.run client room)) (room : Option Nat) :
    ((write text a).run client room).Alike ((write text b).run client room) := by
  cases room with
  | none => exact (h none).after _
  | some room =>
    rcases Nat.lt_or_ge room (Utf8.encode text).length with exceeds | fits
    · rw [run_write_of_lt _ exceeds, run_write_of_lt _ exceeds]
      exact .refl _
    · rw [run_write_of_le _ fits, run_write_of_le _ fits]
      exact (h _).after _

theorem alike_run_foldr_write (pieces : List String) (next : Script ε α) (room : Option Nat) :
    ((pieces.foldr write next).run client room).Alike
      ((write (String.join pieces) next).run client room) := by
  induction pieces generalizing room with
  | nil =>
    cases room with
    | none => exact ⟨rfl, rfl, rfl⟩
    | some room =>
      have fits : (Utf8.encode "").length ≤ room := Nat.zero_le room
      rw [List.foldr_nil, String.join_nil, run_write_of_le next fits]
      exact ⟨rfl, rfl, rfl⟩
  | cons piece pieces ih =>
    rw [List.foldr_cons, String.join_cons]
    exact (alike_run_write piece ih room).trans (alike_run_write_append piece _ next room)

/-- In which pieces texts are written makes no difference, in whatever room. -/
theorem alike_run_divided (d : Division) (script : Script ε α) (room : Option Nat) :
    ((script.divided d).run client room).Alike (script.run client room) := by
  induction script generalizing room with
  | done value => exact .refl _
  | fail error => exact .refl _
  | ask query next ih =>
    rw [divided]
    cases answered : client query with
    | error error =>
      rw [run_ask_of_error answered, run_ask_of_error answered]
      exact .refl _
    | ok answer =>
      rw [run_ask_of_ok answered, run_ask_of_ok answered]
      exact (ih answer room).after _
  | write text next ih =>
    have pieced : (((write text next).divided d).run client room).Alike
        ((write (String.join (d.pieces text)) (next.divided d)).run client room) :=
      alike_run_foldr_write (d.pieces text) (next.divided d) room
    rw [d.join_pieces] at pieced
    exact pieced.trans (alike_run_write text ih room)
  | note text next ih =>
    rw [divided, run_note, run_note]
    exact (ih room).after _

end Script

/-- The report on some repositories in whatever room writes the first bytes of what it writes
without a limit. If all of them fit, both runs are the same, errors included. Otherwise it fails
with a full output, and its queries are the first ones of the other run. In which pieces texts are
written makes no difference, in whatever room or without a limit. -/
theorem all_within_room (client : Query → Except κ String) (wording : κ → String) (o : Options)
    (now : Instant) (repos : List String) (room : Nat) :
    let whole := (all o now repos).run client none
    let limited := (all o now repos).run client (some room)
    limited.output = whole.output.take room ∧
    (whole.output.length ≤ room → limited = whole) ∧
    (room < whole.output.length →
      limited.result = .error .outputFull ∧ limited.calls <+: whole.calls) ∧
    (.outputFull : Failure Error κ).message Error.message wording = "output full" ∧
    ∀ (d : Script.Division) (space : Option Nat),
      (((all o now repos).divided d).run client space).Alike
        ((all o now repos).run client space) := by
  intro whole limited
  have within : limited.Within room whole := (all o now repos).within_run room
  refine ⟨within.output_eq, within.eq_of_le, ?_, rfl, ?_⟩
  · intro exceeds
    exact ⟨within.result_eq_of_lt exceeds, within.calls_prefix⟩
  · intro d space
    exact (all o now repos).alike_run_divided d space

end ReleaseSupport.Report
