import ReleaseSupport.Report.Script
import ReleaseSupport.Text.Blank

/-!
The GitHub CLI as a client. A query becomes an argument list for `gh`; what the process then writes
and how it ends becomes an answer or an error.
-/

set_option autoImplicit false
set_option relaxedAutoImplicit false

namespace ReleaseSupport.Gh

open ReleaseSupport.Report
open ReleaseSupport.Text

def programName : String := "gh"

/-- The arguments that put a query to `gh`; the limit bounds the length of a listing. -/
def arguments (limit : Option UInt32) : Query → List String
  | .list repo =>
    ["release", "-R", repo, "list"] ++ (limit.map fun n => ["-L", toString n]).getD []
  | .view repo tag => ["release", "-R", repo, "view", tag]

def commandLine (args : List String) : String := " ".intercalate args

/-- How a process ends: by itself, with a status, or by a signal. -/
inductive Ending where
  | exited (status : UInt8)
  | killed (signal : Nat) (coreDumped : Bool)
  deriving DecidableEq, Repr

/-- The names of the signals from 1 on. -/
def signalNames : List String :=
  ["HUP", "INT", "QUIT", "ILL", "TRAP", "ABRT", "BUS", "FPE", "KILL", "USR1", "SEGV", "USR2",
    "PIPE", "ALRM", "TERM", "STKFLT", "CHLD", "CONT", "STOP", "TSTP", "TTIN", "TTOU", "URG",
    "XCPU", "XFSZ", "VTALRM", "PROF", "WINCH", "IO", "PWR", "SYS"]

/-- The name of a signal; those after the named ones have a number only. -/
def signalName? : Nat → Option String
  | 0 => none
  | n + 1 => signalNames[n]?

def Ending.text : Ending → String
  | .exited status => "exit status: " ++ toString status
  | .killed signal coreDumped =>
    "signal: " ++ toString signal ++
      ((signalName? signal).map fun name => " (SIG" ++ name ++ ")").getD "" ++
      if coreDumped then " (core dumped)" else ""

/-- What becomes of a process: it is not run, for a reason that the system gives, or it ends and
leaves the bytes that it wrote. -/
inductive Outcome where
  | notRun (reason : String)
  | ended (ending : Ending) (stdout stderr : List UInt8)
  deriving DecidableEq, Repr

inductive Error where
  | notInstalled
  | notRun (reason : String)
  | failed (args : List String) (ending : Ending) (stderr : List UInt8)
  deriving DecidableEq, Repr

def Error.message : Error → String
  | .notInstalled =>
    "Error: The \x60" ++ programName ++ "\x60 command is not available in the PATH.\n" ++
      "Please install the GitHub CLI (https://cli.github.com/) and try again."
  | .notRun reason => "Failed to run '" ++ programName ++ "': " ++ reason
  | .failed args ending stderr =>
    "'" ++ programName ++ " " ++ commandLine args ++ "' failed (" ++ ending.text ++ "):\n" ++
      String.ofList (trimEnd (Utf8.decode stderr).toList)

def answer (args : List String) : Outcome → Except Error String
  | .notRun reason => .error (.notRun reason)
  | .ended ending stdout stderr =>
    if ending = .exited 0 then .ok (Utf8.decode stdout) else .error (.failed args ending stderr)

/-- There is an answer exactly if the process runs and exits with status 0. -/
theorem answer_eq_ok_iff {args : List String} {outcome : Outcome} {text : String} :
    answer args outcome = .ok text ↔
      ∃ stdout stderr, outcome = .ended (.exited 0) stdout stderr ∧ Utf8.decode stdout = text := by
  cases outcome with
  | notRun reason => simp [answer]
  | ended ending stdout stderr =>
    by_cases success : ending = .exited 0
    · simp [answer, success]
    · simp [answer, success]

/-- The arguments of a query, which are not passed on if one of them contains a NUL. -/
def request (limit : Option UInt32) (query : Query) : Except Error (List String) :=
  let args := arguments limit query
  if args.any fun arg => '\x00' ∈ arg.toList then .error (.notRun "nul byte found in provided data")
  else .ok args

/-- The client that puts every query to a process. -/
def client (limit : Option UInt32) (process : List String → Outcome) (query : Query) :
    Except Error String := do
  let args ← request limit query
  answer args (process args)

end ReleaseSupport.Gh
