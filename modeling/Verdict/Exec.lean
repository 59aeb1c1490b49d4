import Verdict.Fault
import Verdict.Map
import Verdict.Protocol
import Verdict.Settings.Basic
import Verdict.Status
import Verdict.Text.Basic
/-! Tests that are executables, running them and judging the outcome. A run that reports a spurious
window resize is repeated, five times at most; a missing executable is a skip; a crash code
overrides what the test reported; and under the memory checker the verdict is judged once more at
the end. -/
namespace Verdict

/-! ### Processes -/

/-- What a finished process leaves behind. Without a process there is no return code. -/
structure ProcessOutput where
  stdout : List UInt8 := []
  stderr : List UInt8 := []
  returncode : Option ReturnCode := none
  deriving DecidableEq

/-- An output made up where no process ran. -/
def ProcessOutput.synthetic (stdout : String) : ProcessOutput :=
  { stdout := stdout.toUTF8.data.toList }

/-- What is started: a program, its arguments, and environment variables set for it only. -/
structure Launch where
  program : String
  arguments : List String
  overrides : OrderedMap String
  deriving DecidableEq

namespace Launch

def argv (launch : Launch) : List String := launch.program :: launch.arguments

/-- No text handed to a new process can hold the character with number zero. -/
def hasNul (launch : Launch) : Bool :=
  (launch.argv ++ launch.overrides.entries.flatMap fun (key, value) => [key, value]).any
    fun text => text.toList.contains '\x00'

end Launch

/-- What came of starting a process. -/
inductive Outcome where
  | finished (output : ProcessOutput)
  | notFound
  | failed (cause : String)
  deriving DecidableEq

/-- One start of a process and what came of it. -/
structure Attempt where
  launch : Launch
  outcome : Outcome
  deriving DecidableEq

/-- What starting processes comes to: for each launch and the number of starts before it. -/
abbrev Host := Launch → Nat → Outcome

/-- A program with a known behaviour, which can stand in for an executable. -/
inductive Program where
  | missing
  | notExecutable
  /-- The outputs of its runs in order; later runs repeat the last one. -/
  | runs (first : ProcessOutput) (others : List ProcessOutput)
  deriving DecidableEq

/-- A host on which every launch meets this program. A text that no process can be given and an
empty program name are found out before. -/
def Program.host (program : Program) : Host := fun launch earlier =>
  if launch.hasNul then .failed "nul byte found in provided data"
  else if launch.program = "" then .notFound
  else
    match program with
    | .missing => .notFound
    | .notExecutable => .failed "Permission denied (os error 13)"
    | .runs first others => .finished ((first :: others)[earlier]?.getD (others.getLastD first))

/-! ### Executable tests -/

/-- A test that runs an executable: a command, environment variables set for it, and a way to read
its output. Whether the platform skips it is decided once, when the test is made. -/
structure ExecTest where
  command : List String
  overrides : OrderedMap String := .empty
  skipped : Bool
  concurrent : Bool := false
  interpreter : Interpreter := Protocol.interpret

namespace ExecTest

/-- The test with this command on a platform. -/
def make (command : List String) (platform : Platform) : ExecTest :=
  { command, skipped := platform.skips command }

/-- The test with this command line on a platform. -/
def ofShell (command : String) (platform : Platform) : Except CommandError ExecTest := do
  return make (← splitCommand command) platform

/-- A command whose program is looked up in a directory. -/
def resolve (directory : String) : List String → List String
  | [] => []
  | program :: arguments => Path.join directory program :: arguments

/-- The test with this command in a directory of executables. -/
def inDirectory (command : List String) (directory : String) (platform : Platform) : ExecTest :=
  make (resolve directory command) platform

/-- The test with one more environment variable. A key set again keeps its place. -/
def withOverride (test : ExecTest) (key value : String) : ExecTest :=
  { test with overrides := test.overrides.put key value }

/-- The test with more environment variables, set in their order. -/
def withOverrides (test : ExecTest) (pairs : List (String × String)) : ExecTest :=
  { test with overrides := test.overrides.putAll pairs }

end ExecTest

/-! ### Runs -/

/-- The command put before tests that run under the memory checker. -/
def memoryCheckCommand : List String :=
  ["valgrind", "--quiet", "--error-exitcode=1", "--tool=memcheck"]

/-- A run whose output has this text hit a defect of the window system and is repeated. -/
def resizeMarker : String := "Got spurious window resize"

/-- How often a test is started at most. -/
def maxAttempts : Nat := 5

/-- The output made up for a test that its platform skips. -/
def skipOutput : String := "PIGLIT: \x7b'result': 'skip'\x7d\n"

/-- The output made up for a test whose executable is missing. -/
def notFoundOutput : String := skipOutput ++ "Test executable not found.\n"

/-- Whether a list occurs in another without gaps. -/
def occursIn {α : Type} [DecidableEq α] (part : List α) : List α → Bool
  | [] => part.isEmpty
  | head :: rest => part.isPrefixOf (head :: rest) || occursIn part rest

/-- Whether an output reports a spurious window resize, in its raw octets. -/
def ProcessOutput.reportsResize (output : ProcessOutput) : Bool :=
  occursIn resizeMarker.toUTF8.data.toList output.stdout

/-- Whether a start asks to be repeated. -/
def Outcome.asksRepeat : Outcome → Bool
  | .finished output => output.reportsResize
  | _ => false

/-- What a start that is not repeated gives: a missing executable has an output made up for it. -/
def Outcome.accept (launch : Launch) : Outcome → Except RunError ProcessOutput
  | .finished output => .ok output
  | .notFound => .ok (.synthetic notFoundOutput)
  | .failed cause => .error (.spawn (Shell.joinWords launch.argv) [cause])

/-- The starts of a test: what each came to, the output that is accepted in the end or the error
that ended them, and the events on the way. -/
structure Trial where
  accepted : Except RunError ProcessOutput
  outcomes : List Outcome
  events : List Event

namespace Trial

/-- The event before a start; starts are counted from one. -/
def startEvent (program : String) (earlier : Nat) : Event :=
  { level := .debug, speaker := .exec, message := "running \x60" ++ program ++ "\x60"
    numbers := [("attempt", earlier + 1)] }

def repeatEvent (earlier : Nat) : Event :=
  { level := .debug, speaker := .exec, message := "spurious window resize, retrying"
    numbers := [("attempt", earlier + 1)] }

/-- The warning that the last attempt was accepted as it is. -/
def exhaustedEvent (program : String) : Event :=
  { level := .warning, speaker := .exec
    message := "\x60" ++ program ++ "\x60 reported a spurious window resize on all "
      ++ toString maxAttempts ++ " attempts, accepting the last result" }

def notFoundEvent (program : String) : Event :=
  { level := .debug, speaker := .exec
    message := "test executable \x60" ++ program ++ "\x60 not found" }

/-- The trial that ends with this start. -/
def last (launch : Launch) (earlier : Nat) (outcome : Outcome) : Trial :=
  let remarks := match outcome with
    | .notFound => [notFoundEvent launch.program]
    | .failed _ => []
    | .finished output => if output.reportsResize then [exhaustedEvent launch.program] else []
  { accepted := outcome.accept launch, outcomes := [outcome]
    events := startEvent launch.program earlier :: remarks }

/-- Starts a test, and again while it asks to be repeated and further starts are left. -/
def run (launch : Launch) (host : Nat → Outcome) (earlier : Nat) : Nat → Trial
  | 0 => last launch earlier (host earlier)
  | further + 1 =>
    let outcome := host earlier
    if outcome.asksRepeat then
      let again := run launch host (earlier + 1) further
      { accepted := again.accepted, outcomes := outcome :: again.outcomes
        events := startEvent launch.program earlier :: repeatEvent earlier :: again.events }
    else last launch earlier outcome

end Trial

/-- What came of running an executable test. -/
structure ExecRun where
  result : Except RunError Record
  attempts : List Attempt := []
  events : List Event := []

namespace ExecTest

/-- The command that is really started. -/
def effectiveCommand (test : ExecTest) (settings : Settings) : List String :=
  if settings.valgrind then memoryCheckCommand ++ test.command else test.command

/-- The environment variables of a test as its record shows them. -/
def environmentText (overrides : OrderedMap String) : String :=
  String.join (overrides.entries.map fun (key, value) => key ++ "=\"" ++ value ++ "\" ")

/-- The account of a run for its reader. -/
def infoText (returncode : Option ReturnCode) (stderr output : String) : String :=
  "Returncode: " ++ (returncode.map toString).getD "None" ++ "\n\nErrors:\n" ++ stderr
    ++ "\n\nOutput:\n" ++ output

/-- What the return code adds to a record: a crash overrides the verdict, and any other code but
zero is noted. -/
def withReturnCode (record : Record) : Option ReturnCode → Record
  | none => record
  | some code =>
    if code.isCrash then { record with result := some .crash }
    else if code = 0 then record
    else { record with note := some ("Returncode was " ++ toString code) }

/-- The record before the run adds what only it knows: from the interpreter, or a plain skip
for a test that its platform skips. -/
def interpretation (test : ExecTest) (output : ProcessOutput) : Interpretation :=
  let stdout := String.ofList (Utf8.decode output.stdout)
  if test.skipped then { output := stdout, record := .ofStatus .skip }
  else test.interpreter stdout output.returncode (.ofStatus .fail)

/-- The record of a finished run. -/
def judge (test : ExecTest) (settings : Settings) (output : ProcessOutput) : Record :=
  let interpretation := test.interpretation output
  let record := withReturnCode interpretation.record output.returncode
  { record with
    result :=
      if settings.valgrind then some (record.status.underMemoryCheck output.returncode)
      else record.result
    environment :=
      if test.overrides.isEmpty then record.environment
      else some (environmentText test.overrides)
    info := some (infoText output.returncode (String.ofList (Utf8.decode output.stderr))
      interpretation.output)
    returncode := output.returncode
    command := some (String.intercalate " " (test.effectiveCommand settings)) }

/-- Runs a test on a host. An empty command is skipped without further ado. -/
def run (test : ExecTest) (settings : Settings) (host : Host) : ExecRun :=
  match test.command, test.effectiveCommand settings with
  | [], _ | _, [] => { result := .ok (.ofStatus .skip) }
  | _ :: _, program :: arguments =>
    if test.skipped then
      let skipping : Event :=
        { level := .debug, speaker := .exec
          message := "skipping \x60" ++ String.intercalate " " (program :: arguments)
            ++ "\x60 on platform \x60" ++ settings.platform.name ++ "\x60" }
      { result := .ok (test.judge settings (.synthetic skipOutput)), events := [skipping] }
    else
      let launch : Launch := ⟨program, arguments, test.overrides⟩
      let trial := Trial.run launch (host launch) 0 (maxAttempts - 1)
      let attempts := trial.outcomes.map fun outcome => { launch, outcome : Attempt }
      match trial.accepted with
      | .error error => { result := .error error, attempts, events := trial.events }
      | .ok output =>
        { result := .ok (test.judge settings output), attempts
          events := trial.events ++ (test.interpretation output).events }

end ExecTest

end Verdict
