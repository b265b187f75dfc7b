import ReleaseSupport.Text.Utf8

/-!
Scripts: what a report does, one step after the other. A step asks for release data, writes text, or
leaves a note for whoever watches. A script says nothing of where answers come from and where text
goes: it is run against a client, with an output that takes all bytes or only so many.
-/

set_option autoImplicit false
set_option relaxedAutoImplicit false

namespace ReleaseSupport.Report

open ReleaseSupport.Text

/-- A question about the releases of a repository. -/
inductive Query where
  | list (repo : String)
  | view (repo tag : String)
  deriving DecidableEq, Repr

/-- Steps that end with a value or with an error of their own. -/
inductive Script (ε α : Type) where
  | done (value : α)
  | fail (error : ε)
  | ask (query : Query) (next : String → Script ε α)
  | write (text : String) (next : Script ε α)
  | note (text : String) (next : Script ε α)

namespace Script

variable {ε κ α β : Type}

/-- A script that goes on with the value of another. -/
def bind (script : Script ε α) (after : α → Script ε β) : Script ε β :=
  match script with
  | .done value => after value
  | .fail error => .fail error
  | .ask query next => .ask query fun answer => (next answer).bind after
  | .write text next => .write text (next.bind after)
  | .note text next => .note text (next.bind after)

instance : Monad (Script ε) where
  pure := done
  bind := bind

theorem bind_done (script : Script ε α) : script.bind done = script := by
  induction script with
  | done => rfl
  | fail => rfl
  | ask _ _ ih => simp [bind, ih]
  | write _ _ ih => simp [bind, ih]
  | note _ _ ih => simp [bind, ih]

theorem bind_bind {γ : Type} (script : Script ε α) (f : α → Script ε β) (g : β → Script ε γ) :
    (script.bind f).bind g = script.bind fun value => (f value).bind g := by
  induction script with
  | done => rfl
  | fail => rfl
  | ask _ _ ih => simp [bind, ih]
  | write _ _ ih => simp [bind, ih]
  | note _ _ ih => simp [bind, ih]

instance : LawfulMonad (Script ε) :=
  LawfulMonad.mk' (Script ε) bind_done (fun _ _ => rfl) bind_bind

def query (q : Query) : Script ε String := ask q done

def say (text : String) : Script ε Unit := write text (done ())

/-- Writes a text if it is wanted. -/
def sayIf (wanted : Bool) (text : String) : Script ε Unit :=
  if wanted then say text else done ()

def noteIf (watched : Bool) (text : String) : Script ε Unit :=
  if watched then note text (done ()) else done ()

def ofExcept : Except ε α → Script ε α
  | .ok value => done value
  | .error error => fail error

/-- The same steps with a note before every query. -/
def announced (notice : Query → String) : Script ε α → Script ε α
  | done value => done value
  | fail error => fail error
  | ask q next => note (notice q) (ask q fun answer => (next answer).announced notice)
  | write text next => write text (next.announced notice)
  | note text next => note text (next.announced notice)

end Script

inductive Event where
  | called (query : Query)
  | wrote (bytes : List UInt8)
  | noted (text : String)
  deriving DecidableEq, Repr

/-- Why a script did not end with a value. -/
inductive Failure (ε κ : Type) where
  | own (error : ε)
  | client (error : κ)
  /-- The output took no more bytes. -/
  | outputFull
  deriving DecidableEq, Repr

def Failure.message {ε κ : Type} (own : ε → String) (client : κ → String) : Failure ε κ → String
  | .own error => own error
  | .client error => client error
  | .outputFull => "output full"

/-- What came of running a script: all that happened, in order, and how it ended. -/
structure Run (ε κ α : Type) where
  events : List Event
  result : Except (Failure ε κ) α

namespace Run

variable {ε κ α : Type}

/-- A run that something happened before. -/
def after (event : Event) (run : Run ε κ α) : Run ε κ α :=
  { run with events := event :: run.events }

def calls (run : Run ε κ α) : List Query :=
  run.events.filterMap fun
    | .called query => some query
    | _ => none

def output (run : Run ε κ α) : List UInt8 :=
  run.events.flatMap fun
    | .wrote bytes => bytes
    | _ => []

def notes (run : Run ε κ α) : List String :=
  run.events.filterMap fun
    | .noted text => some text
    | _ => none

end Run

namespace Script

variable {ε κ α : Type}

/-- Runs a script against a client. Without a limit the output takes all bytes. With one it takes
that many: of a text that does not fit the part that does, and the run ends there. -/
def run (client : Query → Except κ String) : Option Nat → Script ε α → Run ε κ α
  | _, done value => ⟨[], .ok value⟩
  | _, fail error => ⟨[], .error (.own error)⟩
  | room, ask query next =>
    match client query with
    | .ok answer => ((next answer).run client room).after (.called query)
    | .error error => ⟨[.called query], .error (.client error)⟩
  | none, write text next => (next.run client none).after (.wrote (Utf8.encode text))
  | some room, write text next =>
    let bytes := Utf8.encode text
    if bytes.length ≤ room then
      (next.run client (some (room - bytes.length))).after (.wrote bytes)
    else ⟨[.wrote (bytes.take room)], .error .outputFull⟩
  | room, note text next => (next.run client room).after (.noted text)

/-- Runs a script with the given effects. -/
def execute {m : Type → Type} [Monad m] (ask : Query → m (Except κ String))
    (write note : String → m Unit) : Script ε α → m (Except (Failure ε κ) α)
  | done value => pure (.ok value)
  | fail error => pure (.error (.own error))
  | .ask query next => do
    match ← ask query with
    | .ok answer => (next answer).execute ask write note
    | .error error => pure (.error (.client error))
  | .write text next => do
    write text
    next.execute ask write note
  | .note text next => do
    note text
    next.execute ask write note

end Script

end ReleaseSupport.Report
