import PacketLink.CommandLine.Help
import PacketLink.CommandLine.Reader
import PacketLink.Session.Basic

/-!
# The program

* `Program.Outcome`: what a run shows to the one who called it.
* `Program.run`: reads the command line and the settings, and runs a session until a signal
  arrives. Usage and settings that are wrong are answered before anything is opened.
-/

namespace PacketLink.Program

/-- What a run shows, beside its log. -/
structure Outcome where
  exitCode : UInt8
  output : List String := []
  /-- What is said about a command line that is refused. -/
  complaint : List String := []
deriving DecidableEq, Repr

/-- The exit code of a session that went well. -/
def success : UInt8 := 0

/-- The exit code of a session that failed. -/
def failure : UInt8 := 1

/-- The exit code of a run that was not asked for in the right way. -/
def misuse : UInt8 := 2

/-- The exit code of a run that panicked, where a panic unwinds. -/
def unwound : UInt8 := 101

/-- The answer to a command line that there is nothing to run for. -/
def answerHalt : CommandLine.Halt → Outcome
  | .help => { exitCode := success, output := CommandLine.helpLines }
  | .version => { exitCode := success, output := [CommandLine.versionLine] }
  | .refused cause =>
    { exitCode := misuse
      complaint :=
        ["error: " ++ cause.message, "", CommandLine.usageLine, "",
          "For more information, try '--help'."] }

/-- Checked settings, with what there is to report about them. -/
def checkedSettings (line : CommandLine) (contentOf : String → Except Errno Bytes) :
    Sys (Except ConfigError SessionConfig) := do
  match line.config contentOf with
  | .error e => pure (.error e)
  | .ok settings =>
    Host.reportAll settings.reports
    pure (settings.validate (← get).pageSize)

/-- Runs a session on the host until a signal arrives. -/
def runSession (turns : Nat) (settings : SessionConfig) : Sys Session.Ending := fun host =>
  let (ending, world) :=
    Session.run turns settings .system (Session.World.begin host .signals)
  (ending, world.host)

/-- Runs the program with these arguments, where `contentOf` says what is in a file. Its event loop
is given up after so many turns. -/
def run (turns : Nat) (contentOf : String → Except Errno Bytes) (arguments : List String) :
    Sys Outcome := do
  match CommandLine.parse arguments with
  | .error halt => pure (answerHalt halt)
  | .ok line =>
    match ← checkedSettings line contentOf with
    | .error e =>
      Host.report (Log.error e.message [])
      pure { exitCode := misuse }
    | .ok settings =>
      Host.report settings.report
      match ← runSession turns settings with
      | .finished _ => pure { exitCode := success }
      | .failed f =>
        Host.report (Log.error f.message [])
        pure { exitCode := failure }
      | .abandoned => pure { exitCode := failure }
      | .panicked => pure { exitCode := unwound }

end PacketLink.Program
