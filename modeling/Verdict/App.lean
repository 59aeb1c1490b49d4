import Verdict.CommandLine
import Verdict.Execution
import Verdict.Event
import Verdict.Settings.Load
/-! The program as a whole: one test, named and given by the command line, is executed under the
settings of the run. How the program ends tells whether it could do its work, and never how the
test fared. -/
namespace Verdict

/-- What the program meets: its arguments, the variables of its environment, the files in its
directory, the executables it can start, and what the surroundings add to records. -/
structure Invocation where
  arguments : List String
  environment : OrderedMap String := .empty
  files : Files := fun _ => none
  host : Host := Program.missing.host
  surroundings : Surroundings

/-- Why the program gives up on a command line that it follows. -/
inductive AppError where
  | settings (error : SettingsError)
  | command (error : CommandError)
  | write (error : ExecuteError)
  deriving DecidableEq

namespace AppError

def exitCode : AppError → ExitCode
  | .settings _ => .badSettings
  | .command _ => .badCommand
  | .write _ => .writeFailed

/-- The message with all causes. -/
def chain : AppError → String
  | .settings error => error.chain
  | .command error => chainText error.message error.causes
  | .write error => error.chain

/-- The event that tells of an error. -/
def event (error : AppError) : Event :=
  { level := .error, speaker := .failure, message := error.chain }

end AppError

namespace CommandLine

/-- The settings of a run with what the command line says laid on top. -/
def adjust (line : CommandLine) (settings : Settings) : Settings where
  execute := settings.execute && !line.dryRun
  verbose := settings.verbose || line.verbose
  valgrind := settings.valgrind || line.valgrind
  platform := line.platform.elim settings.platform (⟨·⟩)
  binDirectory := line.binDirectory <|> settings.binDirectory

/-- The words of the test command. -/
def argv (line : CommandLine) : Except CommandError (List String) :=
  match line.command with
  | .line text => splitCommand text
  | .words program arguments => .ok (program :: arguments)

/-- The test that the command line asks for. -/
def test (line : CommandLine) (settings : Settings) : Except CommandError ExecTest :=
  line.argv.map fun argv =>
    let plain := match settings.binDirectory with
      | some directory => ExecTest.inDirectory argv directory settings.platform
      | none => ExecTest.make argv settings.platform
    plain.withOverrides line.overrides

/-- The settings and the test, as far as the sources and the command line allow. -/
def prepare (line : CommandLine) (invocation : Invocation) :
    Except AppError (Settings × ExecTest) := do
  let loaded ← (Settings.load invocation.files line.config invocation.environment).mapError
    AppError.settings
  let settings := line.adjust loaded
  return (settings, ← (line.test settings).mapError AppError.command)

end CommandLine

/-- What a run of the program comes to: how it ended, what it wrote, which events it had to tell
and which processes it tried to start. -/
structure AppRun where
  failure : Option AppError := none
  written : List UInt8 := []
  events : List Event := []
  attempts : List Attempt := []

namespace AppRun

def exitCode (run : AppRun) : ExitCode := run.failure.elim .ok AppError.exitCode

/-- The run that ends with an error. -/
def failing (run : AppRun) (error : AppError) : AppRun :=
  { run with failure := some error, events := run.events ++ [error.event] }

/-- The run that ends with the summary of its progress. -/
def concluding (run : AppRun) (progress : Progress) : AppRun :=
  { run with
    events := run.events ++
      [{ level := .debug, speaker := .application, message := progress.summary }] }

/-- The events that a filter shows, one line each. -/
def shown (run : AppRun) (filter : LogFilter) : List String :=
  (run.events.filter filter.shows).map Event.line

end AppRun

/-- Follows a command line, writing to a sink. -/
def CommandLine.run (line : CommandLine) (invocation : Invocation) (sink : Sink) : AppRun :=
  match line.prepare invocation with
  | .error error => AppRun.failing {} error
  | .ok (settings, test) =>
    let plan := (test.toTestCase invocation.host).plan settings {} invocation.surroundings line.name
    let execution := plan.execute { sink }
    let run : AppRun :=
      { written := execution.shared.sink.taken.drop sink.taken.length
        events := execution.events
        attempts := plan.conduct.elim [] Conduct.attempts }
    match execution.failure with
    | some error => run.failing (.write error)
    | none => run.concluding execution.shared.progress

/-- How the program ends. -/
inductive Ending where
  /-- The command line is not followed. -/
  | usage (error : UsageError)
  /-- The log filter that is asked for makes no sense; nothing was done. -/
  | badFilter
  | ran (run : AppRun) (filter : LogFilter)

/-- The exit code of the program. -/
def Ending.exitCode : Ending → Nat
  | .usage error => error.exitCode
  | .badFilter => 101
  | .ran run _ => run.exitCode.toNat

namespace Invocation

/-- The variable that names the settings file. -/
def configVariable : String := "PIGLIT_CONFIG"

/-- The variable that holds the log filter. -/
def logVariable : String := "PIGLIT_LOG"

/-- The command line of an invocation. -/
def commandLine (invocation : Invocation) : Except UsageError CommandLine :=
  CommandLine.parse invocation.arguments (invocation.environment.get? configVariable)

/-- The log filter of an invocation. -/
def filter? (invocation : Invocation) : Option LogFilter :=
  LogFilter.parse? ((invocation.environment.get? logVariable).getD "")

/-- Runs the program. -/
def run (invocation : Invocation) (sink : Sink) : Ending :=
  match invocation.commandLine with
  | .error error => .usage error
  | .ok line =>
    match invocation.filter? with
    | none => .badFilter
    | some filter => .ran (line.run invocation sink) filter

end Invocation

end Verdict
