import ReleaseSupport.Program
import Std.Time.DateTime.Timestamp

/-!
The program in its surroundings. It starts no process: the answers of `gh` are read from a directory
of recorded ones, whose name is in the environment. The file of an answer bears the arguments of the
call as its name, joined by underscores and with an underscore for every slash.
-/

set_option autoImplicit false
set_option relaxedAutoImplicit false

namespace ReleaseSupport.Program

open ReleaseSupport.Calendar
open ReleaseSupport.Report

def answersVariable : String := "RELEASE_EOL_ANSWERS"

def currentInstant : IO (Option Instant) := do
  let nanos := (← Std.Time.Timestamp.now).toNanosecondsSinceUnixEpoch.val
  return Instant.ofUnix? (nanos / 1000000000) (nanos % 1000000000).toNat

/-- The recorded outcome of a call of `gh`; a call without one fails. -/
def recorded (directory : String) (args : List String) : IO Gh.Outcome := do
  let name := String.map (fun c => if c = '/' then '_' else c) ("_".intercalate args)
  try
    let bytes ← IO.FS.readBinFile (directory ++ "/" ++ name)
    return .ended (.exited 0) bytes.toList []
  catch _ =>
    return .ended (.exited 1) [] (Text.Utf8.encode "release not found\n")

def ask (directory : String) (limit : Option UInt32) (query : Query) :
    IO (Except Gh.Error String) := do
  match Gh.request limit query with
  | .error error => return .error error
  | .ok args => return Gh.answer args (← recorded directory args)

def writeText (text : String) : IO Unit := do
  let stdout ← IO.getStdout
  stdout.putStr text
  stdout.flush

def runScript (directory : String) (settings : CommandLine.Settings) : IO UInt32 := do
  let some now ← currentInstant
    | IO.eprintln "Error: the clock is outside the calendar"
      return 1
  let result ← (script directory settings now).execute (ask directory settings.limit)
    writeText (fun note => IO.eprintln note)
  match result with
  | .ok _ => return 0
  | .error failure =>
    IO.eprintln (failureMessage failure)
    return 1

end ReleaseSupport.Program

open ReleaseSupport in
def main (args : List String) : IO UInt32 := do
  let directory ← IO.getEnv Program.answersVariable
  match Program.plan directory args with
  | .stop outcome =>
    let stdout ← IO.getStdout
    stdout.write (ByteArray.mk outcome.stdout.toArray)
    stdout.flush
    IO.eprint outcome.stderr
    return outcome.exitCode.toUInt32
  | .report path settings => Program.runScript path settings
