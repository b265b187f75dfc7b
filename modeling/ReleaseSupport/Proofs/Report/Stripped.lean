import ReleaseSupport.Proofs.Report.Room
import ReleaseSupport.Report

/-!
Scripts stripped of what is only shown. Without its notes a script makes the same queries, writes
the same text and ends the same way, in whatever room. Without its texts too, it still makes the
same queries and ends the same way, if the output takes everything. Of all the options of a report,
a script stripped of both knows only whether images are looked up, and the policy.
-/

set_option autoImplicit false
set_option relaxedAutoImplicit false

namespace ReleaseSupport.Report

open ReleaseSupport.Calendar
open ReleaseSupport.Text

variable {ε κ α β : Type}

namespace Script

/-- The same steps without the notes, and without the texts too unless they are kept. -/
def stripped (keepTexts : Bool) : Script ε α → Script ε α
  | done value => done value
  | fail error => fail error
  | ask query next => ask query fun answer => (next answer).stripped keepTexts
  | write text next =>
    if keepTexts then write text (next.stripped keepTexts) else next.stripped keepTexts
  | note _ next => next.stripped keepTexts

variable {keepTexts : Bool}

@[simp] theorem stripped_done (value : α) :
    (done value : Script ε α).stripped keepTexts = done value := rfl

@[simp] theorem stripped_pure (value : α) :
    (pure value : Script ε α).stripped keepTexts = pure value := rfl

@[simp] theorem stripped_query (q : Query) :
    (query q : Script ε String).stripped keepTexts = query q := rfl

@[simp] theorem stripped_ofExcept (x : Except ε α) :
    (ofExcept x).stripped keepTexts = ofExcept x := by
  cases x <;> rfl

@[simp] theorem stripped_noteIf (watched : Bool) (text : String) :
    (noteIf watched text : Script ε Unit).stripped keepTexts = pure () := by
  cases watched <;> rfl

@[simp] theorem stripped_true_sayIf (wanted : Bool) (text : String) :
    (sayIf wanted text : Script ε Unit).stripped true = sayIf wanted text := by
  cases wanted <;> rfl

@[simp] theorem stripped_false_sayIf (wanted : Bool) (text : String) :
    (sayIf wanted text : Script ε Unit).stripped false = pure () := by
  cases wanted <;> rfl

@[simp] theorem stripped_bind (script : Script ε α) (f : α → Script ε β) :
    (script >>= f).stripped keepTexts =
      script.stripped keepTexts >>= fun value => (f value).stripped keepTexts := by
  induction script with
  | done value => rfl
  | fail error => rfl
  | ask query next ih => exact congrArg (ask query) (funext ih)
  | write text next ih =>
    change (write text (next >>= f)).stripped keepTexts =
      (write text next).stripped keepTexts >>= _
    cases keepTexts
    · exact ih
    · exact congrArg (write text) ih
  | note text next ih => exact ih

@[simp] theorem stripped_mapM (f : β → Script ε α) (xs : List β) :
    (xs.mapM f).stripped keepTexts = xs.mapM fun x => (f x).stripped keepTexts := by
  induction xs with
  | nil => rfl
  | cons x xs ih => simp only [List.mapM_cons, stripped_bind, stripped_pure, ih]

@[simp] theorem stripped_forM_noteIf (watched : Bool) (text : β → String) (xs : List β) :
    (xs.forM fun x => noteIf watched (text x) : Script ε Unit).stripped keepTexts = pure () := by
  induction xs with
  | nil => rfl
  | cons x xs ih =>
    change (noteIf watched (text x) >>= fun _ => xs.forM fun x => noteIf watched (text x)).stripped
      keepTexts = pure ()
    rw [stripped_bind, stripped_noteIf, pure_bind, ih]

@[simp] theorem stripped_announced (notice : Query → String) (script : Script ε α) :
    (script.announced notice).stripped keepTexts = script.stripped keepTexts := by
  induction script with
  | done value => rfl
  | fail error => rfl
  | ask query next ih => exact congrArg (ask query) (funext ih)
  | write text next ih =>
    cases keepTexts
    · exact ih
    · exact congrArg (write text) ih
  | note text next ih => exact ih

variable (client : Query → Except κ String)

/-- Without its notes a script makes the same queries, writes the same and ends the same way. -/
theorem alike_run_stripped_true (script : Script ε α) (room : Option Nat) :
    ((script.stripped true).run client room).Alike (script.run client room) := by
  induction script generalizing room with
  | done value => exact .refl _
  | fail error => exact .refl _
  | ask query next ih =>
    rw [stripped]
    cases answered : client query with
    | error error =>
      rw [run_ask_of_error answered, run_ask_of_error answered]
      exact .refl _
    | ok answer =>
      rw [run_ask_of_ok answered, run_ask_of_ok answered]
      exact (ih answer room).after _
  | write text next ih => exact alike_run_write text ih room
  | note text next ih =>
    rw [run_note]
    exact ⟨(ih room).calls_eq, (ih room).output_eq, (ih room).result_eq⟩

/-- Without its texts and notes a script still makes the same queries and ends the same way. -/
theorem run_stripped_false (script : Script ε α) :
    ((script.stripped false).run client none).calls = (script.run client none).calls ∧
      ((script.stripped false).run client none).result = (script.run client none).result := by
  induction script with
  | done value => exact ⟨rfl, rfl⟩
  | fail error => exact ⟨rfl, rfl⟩
  | ask query next ih =>
    rw [stripped]
    cases answered : client query with
    | error error =>
      rw [run_ask_of_error answered, run_ask_of_error answered]
      exact ⟨rfl, rfl⟩
    | ok answer =>
      rw [run_ask_of_ok answered, run_ask_of_ok answered]
      exact ⟨congrArg (query :: ·) (ih answer).1, (ih answer).2⟩
  | write text next ih => exact ih
  | note text next ih => exact ih

end Script

section Options

variable (o : Options) (now : Instant)

theorem stripped_gather (keepTexts : Bool) (repo : String) (display json verbose : Bool) :
    (gather { o with display, json, verbose } now repo).stripped keepTexts =
      (gather o now repo).stripped keepTexts := by
  simp only [gather, Script.stripped_bind, Script.stripped_query, Script.stripped_ofExcept,
    Script.stripped_noteIf, Script.stripped_forM_noteIf]

theorem stripped_resolveImage (repo : String) (e : Entry) (display json verbose : Bool) :
    (resolveImage { o with display, json, verbose } repo e).stripped false =
      (resolveImage o repo e).stripped false := by
  simp only [resolveImage, Script.stripped_bind, Script.stripped_query, Script.stripped_ofExcept,
    Script.stripped_false_sayIf]

theorem stripped_illustrate (repo : String) (entries : List Entry)
    (display json verbose : Bool) :
    (illustrate { o with display, json, verbose } repo entries).stripped false =
      (illustrate o repo entries).stripped false := by
  unfold illustrate
  dsimp only
  split
  · simp only [Script.stripped_bind, Script.stripped_false_sayIf, Script.stripped_mapM,
      stripped_resolveImage]
  · rfl

theorem stripped_repository (repo : String) (display json verbose : Bool) :
    (repository { o with display, json, verbose } now repo).stripped false =
      (repository o now repo).stripped false := by
  simp only [repository, Script.stripped_bind, Script.stripped_false_sayIf, stripped_gather,
    stripped_illustrate]

/-- Without its texts and notes a report knows only whether it looks up images, and its policy. -/
theorem stripped_all (repos : List String) (display json verbose : Bool) :
    (all { o with display, json, verbose } now repos).stripped false =
      (all o now repos).stripped false := by
  simp only [all, Script.stripped_bind, Script.stripped_mapM, Script.stripped_false_sayIf,
    stripped_repository]

/-- Without its notes a report does not know whether it is watched. -/
theorem stripped_all_verbose (repos : List String) (verbose : Bool) :
    (all { o with verbose } now repos).stripped true = (all o now repos).stripped true := by
  have gathered := fun repo => stripped_gather o now true repo o.display o.json verbose
  simp only [all, repository, Script.stripped_bind, Script.stripped_mapM, gathered]
  rfl

end Options

end ReleaseSupport.Report
