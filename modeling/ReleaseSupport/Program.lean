import ReleaseSupport.CommandLine
import ReleaseSupport.CommandLine.Help
import ReleaseSupport.Gh
import ReleaseSupport.Report

/-!
The program as a whole. Its plan follows from the arguments and from whether `gh` is there: either
it stops at once with a text, or it runs a report script whose client is `gh`. Notes go to the
standard error, the report to the standard output.
-/

set_option autoImplicit false
set_option relaxedAutoImplicit false

namespace ReleaseSupport.Program

open ReleaseSupport.Calendar
open ReleaseSupport.CommandLine
open ReleaseSupport.Report
open ReleaseSupport.Text

def usageMessage : UsageError → String
  | .unknownArgument argument => "unexpected argument '" ++ argument ++ "' found"
  | .valueForFlag _ => "a value was given to an option that takes none"
  | .repeated _ => "an option was given more than once"
  | .missingValue _ => "the value of an option is missing"
  | .badValue _ error => "an option has a bad value: " ++ error.message
  | .missingRepository => "no repository was given"

structure Outcome where
  exitCode : UInt8
  stdout : List UInt8
  stderr : String
  deriving DecidableEq, Repr

def stopped : Stop → Outcome
  | .help => ⟨0, Utf8.encode helpText, ""⟩
  | .version => ⟨0, Utf8.encode versionText, ""⟩
  | .misuse error =>
    ⟨2, [], "error: " ++ usageMessage error ++ "\n\nFor more information, try '--help'.\n"⟩

def withoutGh : Outcome := ⟨1, [], Gh.Error.notInstalled.message ++ "\n"⟩

def options (s : Settings) : Options where
  display := s.display
  doc := s.doc
  json := s.json
  verbose := s.verbose
  policy := Policy.ofDays s.maxAge s.patchWindow

def policyNote (s : Settings) : String :=
  "Support policy: " ++ toString s.maxAge ++ " days from first release, " ++
    toString s.patchWindow ++ " days from latest patch"

/-- The note before `gh` is run for a query, given the path at which it was found. -/
def runningNote (gh : String) (s : Settings) (query : Query) : String :=
  "Running: " ++ gh ++ " " ++ Gh.commandLine (Gh.arguments s.limit query)

def script (gh : String) (s : Settings) (now : Instant) :
    Script Report.Error (List RepositoryReport) :=
  let report := Report.all (options s) now s.repos
  if s.verbose then .note (policyNote s) (report.announced (runningNote gh s)) else report

def failureMessage (failure : Failure Report.Error Gh.Error) : String :=
  "Error: " ++ failure.message Report.Error.message Gh.Error.message

def reported (run : Run Report.Error Gh.Error (List RepositoryReport)) : Outcome :=
  match run.result with
  | .ok _ => ⟨0, run.output, unlines run.notes⟩
  | .error failure => ⟨1, run.output, unlines (run.notes ++ [failureMessage failure])⟩

inductive Plan where
  | stop (outcome : Outcome)
  | report (gh : String) (settings : Settings)
  deriving DecidableEq, Repr

/-- The plan for an argument list, given the path of `gh` if it is there. -/
def plan (gh : Option String) (args : List String) : Plan :=
  match parse args, gh with
  | .error stop, _ => .stop (stopped stop)
  | .ok _, none => .stop withoutGh
  | .ok settings, some path => .report path settings

/-- What the program finds around it: the path of `gh` if it is there, what `gh` does with its
arguments, and the present. -/
structure Surroundings where
  gh : Option String
  process : List String → Gh.Outcome
  now : Instant

def run (around : Surroundings) (args : List String) : Outcome :=
  match plan around.gh args with
  | .stop outcome => outcome
  | .report gh settings =>
    reported ((script gh settings around.now).run (Gh.client settings.limit around.process) none)

end ReleaseSupport.Program
