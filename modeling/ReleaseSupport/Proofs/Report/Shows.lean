import Mathlib.Data.List.Forall2
import ReleaseSupport.Report.Script

/-!
What a script shows when its output takes everything: the queries that it makes, the text that it
writes, and how it ends. Scripts in a row show what each of them shows, one after the other, up to
the first that fails.
-/

set_option autoImplicit false
set_option relaxedAutoImplicit false

namespace ReleaseSupport.Report

open ReleaseSupport.Text

variable {ε κ α β : Type}

namespace Run

/-- A run that goes on with another one if it ends with a value. -/
def andThen (run : Run ε κ α) (next : α → Run ε κ β) : Run ε κ β :=
  match run.result with
  | .ok value => ⟨run.events ++ (next value).events, (next value).result⟩
  | .error failure => ⟨run.events, .error failure⟩

theorem andThen_of_ok {run : Run ε κ α} {value : α} (h : run.result = .ok value)
    (next : α → Run ε κ β) :
    run.andThen next = ⟨run.events ++ (next value).events, (next value).result⟩ := by
  rw [andThen, h]

theorem andThen_of_error {run : Run ε κ α} {failure : Failure ε κ}
    (h : run.result = .error failure) (next : α → Run ε κ β) :
    run.andThen next = ⟨run.events, .error failure⟩ := by
  rw [andThen, h]

theorem after_andThen (event : Event) (run : Run ε κ α) (next : α → Run ε κ β) :
    (run.after event).andThen next = (run.andThen next).after event := by
  unfold andThen after
  cases run.result <;> rfl

end Run

namespace Script

variable {client : Query → Except κ String}

theorem run_ask_of_ok {query : Query} {answer : String} (h : client query = .ok answer)
    (next : String → Script ε α) (room : Option Nat) :
    (ask query next).run client room = ((next answer).run client room).after (.called query) := by
  rw [run, h]

theorem run_ask_of_error {query : Query} {error : κ} (h : client query = .error error)
    (next : String → Script ε α) (room : Option Nat) :
    (ask query next).run client room = ⟨[.called query], .error (.client error)⟩ := by
  rw [run, h]

theorem run_bind (script : Script ε α) (f : α → Script ε β) :
    (script >>= f).run client none =
      (script.run client none).andThen fun value => (f value).run client none := by
  induction script with
  | done value => rfl
  | fail error => rfl
  | ask query next ih =>
    change (ask query fun answer => next answer >>= f).run client none = _
    cases answered : client query with
    | error error =>
      rw [run_ask_of_error answered, run_ask_of_error answered]
      rfl
    | ok answer => rw [run_ask_of_ok answered, run_ask_of_ok answered, ih, Run.after_andThen]
  | write text next ih =>
    exact (congrArg (Run.after _) ih).trans (Run.after_andThen _ _ _).symm
  | note text next ih =>
    exact (congrArg (Run.after _) ih).trans (Run.after_andThen _ _ _).symm

end Script

/-- What a script shows against a client when its output takes everything. -/
structure Shows (client : Query → Except κ String) (script : Script ε α) (calls : List Query)
    (text : String) (result : Except (Failure ε κ) α) : Prop where
  calls_eq : (script.run client none).calls = calls
  output_eq : (script.run client none).output = Utf8.encode text
  result_eq : (script.run client none).result = result

theorem encode_append (a b : String) : Utf8.encode (a ++ b) = Utf8.encode a ++ Utf8.encode b := by
  simp [Utf8.encode]

namespace Shows

variable {client : Query → Except κ String} {script : Script ε α} {f : α → Script ε β}
  {calls calls' : List Query} {text text' : String} {value : α}
  {result : Except (Failure ε κ) β} {failure : Failure ε κ}

theorem done (value : α) : Shows client (Script.done value : Script ε α) [] "" (.ok value) :=
  ⟨rfl, rfl, rfl⟩

theorem congr {result : Except (Failure ε κ) α} (h : Shows client script calls text result)
    (hcalls : calls = calls') (htext : text = text') :
    Shows client script calls' text' result := by
  rwa [← hcalls, ← htext]

theorem bind (first : Shows client script calls text (.ok value))
    (next : Shows client (f value) calls' text' result) :
    Shows client (script >>= f) (calls ++ calls') (text ++ text') result := by
  have whole := (Script.run_bind script f).trans (Run.andThen_of_ok first.result_eq _)
  refine ⟨?_, ?_, ?_⟩
  · rw [whole, ← first.calls_eq, ← next.calls_eq]
    exact List.filterMap_append
  · rw [whole, encode_append, ← first.output_eq, ← next.output_eq]
    exact List.flatMap_append
  · rw [whole]
    exact next.result_eq

theorem bind_error (first : Shows client script calls text (.error failure)) :
    Shows client (script >>= f) calls text (.error failure) := by
  have whole := (Script.run_bind script f).trans (Run.andThen_of_error first.result_eq _)
  exact ⟨whole ▸ first.calls_eq, whole ▸ first.output_eq, whole ▸ rfl⟩

theorem bind_silent (first : Shows client script [] "" (.ok value))
    (next : Shows client (f value) calls' text' result) :
    Shows client (script >>= f) calls' text' result := by
  simpa using first.bind next

theorem map (first : Shows client script calls text (.ok value)) (g : α → β) :
    Shows client (script >>= fun value => pure (g value)) calls text (.ok (g value)) := by
  have whole : Shows client (script >>= fun value => pure (g value)) (calls ++ []) (text ++ "")
      (.ok (g value)) := first.bind (done (g value))
  rwa [List.append_nil, String.append_empty] at whole

theorem query {q : Query} {answer : String} (h : client q = .ok answer) :
    Shows client (Script.query q : Script ε String) [q] "" (.ok answer) := by
  have run := Script.run_ask_of_ok h (Script.done (ε := ε)) none
  exact ⟨run ▸ rfl, run ▸ rfl, run ▸ rfl⟩

theorem query_bind {q : Query} {answer : String} {f : String → Script ε β}
    (h : client q = .ok answer) (next : Shows client (f answer) calls text result) :
    Shows client (Script.query q >>= f) (q :: calls) text result := by
  simpa using (query h).bind next

theorem query_error {q : Query} {error : κ} (h : client q = .error error) :
    Shows client (Script.query q : Script ε String) [q] "" (.error (.client error)) := by
  have run := Script.run_ask_of_error h (Script.done (ε := ε)) none
  exact ⟨run ▸ rfl, run ▸ rfl, run ▸ rfl⟩

theorem say (text : String) :
    Shows client (Script.say text : Script ε Unit) [] text (.ok ()) :=
  ⟨rfl, List.append_nil _, rfl⟩

theorem sayIf (wanted : Bool) (text : String) :
    Shows client (Script.sayIf wanted text : Script ε Unit) [] (if wanted then text else "")
      (.ok ()) := by
  cases wanted
  · exact done ()
  · exact say text

theorem noteIf (watched : Bool) (note : String) :
    Shows client (Script.noteIf watched note : Script ε Unit) [] "" (.ok ()) := by
  cases watched <;> exact ⟨rfl, rfl, rfl⟩

theorem forM_noteIf (watched : Bool) (note : β → String) (xs : List β) :
    Shows client (xs.forM fun x => Script.noteIf watched (note x) : Script ε Unit) [] ""
      (.ok ()) := by
  induction xs with
  | nil => exact done ()
  | cons x xs ih => exact (noteIf watched (note x)).bind_silent ih

theorem ofExcept {x : Except ε α} {value : α} (h : x = .ok value) :
    Shows client (Script.ofExcept x) [] "" (.ok value) := by
  rw [h]
  exact ⟨rfl, rfl, rfl⟩

theorem ofExcept_error {x : Except ε α} {error : ε} (h : x = .error error) :
    Shows client (Script.ofExcept x) [] "" (.error (.own error)) := by
  rw [h]
  exact ⟨rfl, rfl, rfl⟩

section Traversal

variable {step : β → Script ε α} {callsOf : α → List Query} {textOf : α → String}
  {xs before after : List β} {ys : List α} {x : β}

/-- A traversal shows what its steps show, in order. -/
theorem mapM
    (each : List.Forall₂ (fun x y => Shows client (step x) (callsOf y) (textOf y) (.ok y)) xs ys) :
    Shows client (xs.mapM step) (ys.flatMap callsOf) (String.join (ys.map textOf)) (.ok ys) := by
  induction each with
  | nil => exact done []
  | @cons x y xs ys first _ ih =>
    rw [List.mapM_cons, List.flatMap_cons, List.map_cons, String.join_cons]
    exact first.bind (ih.map (y :: ·))

/-- A traversal ends at the first step that fails, after what the steps before it show. -/
theorem mapM_error
    (each : List.Forall₂ (fun x y => Shows client (step x) (callsOf y) (textOf y) (.ok y))
      before ys)
    (failed : Shows client (step x) calls text (.error failure)) :
    Shows client ((before ++ x :: after).mapM step) (ys.flatMap callsOf ++ calls)
      (String.join (ys.map textOf) ++ text) (.error failure) := by
  induction each with
  | nil =>
    rw [List.nil_append, List.mapM_cons]
    simpa using failed.bind_error
  | @cons x y xs ys first _ ih =>
    rw [List.cons_append, List.mapM_cons, List.flatMap_cons, List.map_cons, String.join_cons,
      List.append_assoc, String.append_assoc]
    exact first.bind ih.bind_error

end Traversal

end Shows

end ReleaseSupport.Report
