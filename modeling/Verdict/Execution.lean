import Verdict.Event
import Verdict.Exec
import Verdict.Journal
import Verdict.Progress
import Verdict.Record
/-! Executing tests. A test acts on the progress and the journal that it shares with others in
single steps: it is announced, works on its own, is reported and concluded, and then writes its
entries until one cannot be written. Tests run one after the other here; any schedule of their
steps makes sense. -/
namespace Verdict

/-! ### Conducting a test

The kernel log is refreshed, the test prepares and runs, its output is brought into the form of a
record, and the kernel log may annotate it. Whatever goes wrong on the way, error or panic, is
contained: it becomes a record of a failed test, and nothing of the half-finished run is left in
it. -/

/-- What a test returns: a record, or loose fields, which are accepted with a warning. -/
inductive TestOutput where
  | record (record : Record)
  | fields (fields : SortedMap Json)
  deriving DecidableEq

/-- The run of a test: how it ended, and what it left on the way. -/
structure TestRun where
  outcome : Except Fault TestOutput
  attempts : List Attempt := []
  events : List Event := []

/-- A test: what happens before it runs, and its run under given settings. -/
structure TestCase where
  before : Except Fault Unit := .ok ()
  run : Settings → TestRun

/-- An executable test on a host. -/
def ExecTest.toTestCase (test : ExecTest) (host : Host) : TestCase where
  run settings :=
    let run := test.run settings host
    { outcome := (run.result.map TestOutput.record).mapError Fault.error
      attempts := run.attempts, events := run.events }

/-- The log of the kernel, which can annotate the record of a test. It may panic, but reports no
errors. -/
structure KernelLog where
  refresh : Except Payload Unit := .ok ()
  annotate : Record → Except Payload Record := .ok

namespace KernelLog

/-- A kernel log that replaces the fields for which it has a value. -/
def replacing (result : Option Status) (note : Option String) (time : Option Binary64) :
    KernelLog where
  annotate record :=
    .ok { record with
      result := result <|> record.result, note := note <|> record.note
      time := time <|> record.time }

/-- A kernel log that cannot be read when a record is to be annotated. -/
def unavailable : KernelLog where
  annotate _ := .error (.text "kernel log unavailable")

end KernelLog

/-- A stage of a test that was reached. -/
inductive Stage where
  | refresh
  | before
  | run
  | annotate (record : Record)
  deriving DecidableEq

/-- What the surroundings add to records: the time that a run took, and where a failure was
contained. -/
structure Surroundings where
  elapsed : Binary64
  backtrace : String

/-- The note on a record that was made from loose fields. -/
def looseNote : String := "Result not returned as a ResultRecord"

/-- The record of a test's output. -/
def TestOutput.toRecord : TestOutput → Except RunError Record
  | .record returned => .ok returned
  | .fields loose => (Record.ofFields loose).mapError fun error => .invalidOutput [error.message]

def TestOutput.isLoose : TestOutput → Bool
  | .record _ => false
  | .fields _ => true

/-- What a finished record still lacks: the time unless it has one, a verdict unless it has one,
and for loose fields the warning, whatever the kernel log has made of the record. -/
def Record.complete (record : Record) (loose : Bool) (elapsed : Binary64) : Record :=
  let timed := { record with time := some (record.time.getD elapsed) }
  if loose then { timed with result := some .warn, note := some looseNote }
  else { timed with result := some timed.status }

/-- The stages of a test up to the first fault, and what they come to. -/
structure Course where
  outcome : Except Fault Record
  stages : List Stage
  attempts : List Attempt := []
  events : List Event := []

/-- Leads a test through its stages. -/
def TestCase.course (test : TestCase) (settings : Settings) (kernelLog : KernelLog)
    (elapsed : Binary64) : Course :=
  match kernelLog.refresh with
  | .error payload => { outcome := .error (.panic payload), stages := [.refresh] }
  | .ok () =>
    match test.before with
    | .error fault => { outcome := .error fault, stages := [.refresh, .before] }
    | .ok () =>
      let run := test.run settings
      let reached : Course :=
        { outcome := .error (.panic .other), stages := [.refresh, .before, .run]
          attempts := run.attempts, events := run.events }
      match run.outcome with
      | .error fault => { reached with outcome := .error fault }
      | .ok output =>
        match output.toRecord with
        | .error error => { reached with outcome := .error (.error error) }
        | .ok record =>
          let annotated := (kernelLog.annotate record).mapError Fault.panic
          { reached with
            outcome := annotated.map fun record => record.complete output.isLoose elapsed
            stages := reached.stages ++ [.annotate record] }

namespace Fault

/-- The kind and text of a fault, as a record names its exception. -/
def exception : Fault → String
  | .error cause => "RunError::" ++ cause.kind ++ ": " ++ cause.message
  | .panic payload => "panic: " ++ payload.message

/-- What is known about the origin of a fault. -/
def origin : Fault → String
  | .error cause => cause.chain
  | .panic _ => "test panicked"

/-- The text between the origin of a fault and the place where it was contained. -/
def containedAt : String := "\n\ncontained at:\n"

/-- The record of a contained fault: a failure with the exception and where it came from. -/
def toRecord (fault : Fault) (backtrace : String) : Record :=
  { result := some .fail, exception := some fault.exception
    traceback := some (fault.origin ++ containedAt ++ backtrace) }

/-- The warning about a contained fault. -/
def warning (fault : Fault) (path : String) : Event :=
  let verb := match fault with
    | .error cause => "\x60 failed to run: " ++ cause.message
    | .panic payload => "\x60 panicked: " ++ payload.message
  { level := .warning, speaker := .testCase, message := "test \x60" ++ path ++ verb }

end Fault

/-- A test conducted to its end: the final record, the stages reached, and the traces left. -/
structure Conduct where
  record : Record
  stages : List Stage
  attempts : List Attempt
  events : List Event

/-- Conducts a test and contains what goes wrong. -/
def TestCase.conduct (test : TestCase) (settings : Settings) (kernelLog : KernelLog)
    (surroundings : Surroundings) (path : String) : Conduct :=
  let course := test.course settings kernelLog surroundings.elapsed
  match course.outcome with
  | .ok record =>
    { record, stages := course.stages, attempts := course.attempts, events := course.events }
  | .error fault =>
    { record := fault.toRecord surroundings.backtrace, stages := course.stages
      attempts := course.attempts, events := course.events ++ [fault.warning path] }

/-! ### Tests as tasks -/

/-- A step of a test on what it shares with others. -/
inductive Step where
  | announce (path : Option String)
  /-- The test works on its own and leaves events. -/
  | work (events : List Event)
  | report (path : String) (status : Status)
  | conclude (status : Status)
  | write (entry : Entry)
  deriving DecidableEq

/-- What tests share. -/
structure Shared where
  progress : Progress := {}
  sink : Sink := {}
  deriving DecidableEq

/-- Why a test was executed without its result being written. -/
inductive ExecuteError where
  | write (path cause : String)
  | panic
  deriving DecidableEq

namespace ExecuteError

def message : ExecuteError → String
  | .write path _ => "error writing result record for \x60" ++ path ++ "\x60"
  | .panic => "the output panicked"

def causes : ExecuteError → List String
  | .write _ cause => [cause]
  | .panic => []

/-- The message with all causes. -/
def chain (error : ExecuteError) : String := chainText error.message error.causes

end ExecuteError

/-- A test under way: its handle, once it is announced, the steps that are left, and how it ended
if it ended early. -/
structure Task where
  handle : Nat := 0
  remaining : List Step
  failure : Option ExecuteError := none
  deriving DecidableEq

namespace Task

/-- Takes the next step of a test. After an entry that cannot be written no step is left. -/
def advance (task : Task) (shared : Shared) : Task × Shared × List Event :=
  match task.remaining with
  | [] => (task, shared, [])
  | .announce path :: rest =>
    let (progress, events) := shared.progress.announce path
    ({ task with handle := shared.progress.nextHandle, remaining := rest },
      { shared with progress }, events)
  | .work events :: rest => ({ task with remaining := rest }, shared, events)
  | .report path status :: rest =>
    ({ task with remaining := rest }, shared, Progress.report path status)
  | .conclude status :: rest =>
    let (progress, events) := shared.progress.conclude task.handle status
    ({ task with remaining := rest }, { shared with progress }, events)
  | .write entry :: rest =>
    let (sink, written) := shared.sink.writeEntry entry
    let shared := { shared with sink }
    match written with
    | .ok => ({ task with remaining := rest }, shared, [])
    | .failed cause =>
      ({ task with remaining := [], failure := some (.write entry.path cause) }, shared, [])
    | .panicked => ({ task with remaining := [], failure := some .panic }, shared, [])

/-- Every step leaves fewer steps. -/
theorem advance_shortens (task : Task) (shared : Shared) (busy : task.remaining ≠ []) :
    (task.advance shared).1.remaining.length < task.remaining.length := by
  obtain ⟨handle, remaining, failure⟩ := task
  cases remaining with
  | nil => exact absurd rfl busy
  | cons step rest =>
    cases step with
    | write entry =>
      simp only [advance]
      cases (shared.sink.writeEntry entry).2 <;> simp
    | _ => simp [advance]

/-- Takes all steps of a test, one after the other. -/
def finish (task : Task) (shared : Shared) : Task × Shared × List Event :=
  if _idle : task.remaining = [] then (task, shared, [])
  else
    let next := task.advance shared
    let (last, shared, events) := finish next.1 next.2.1
    (last, shared, next.2.2 ++ events)
termination_by task.remaining.length
decreasing_by exact advance_shortens task shared _idle

end Task

/-- A test that has been planned: how it was conducted, unless it is only announced, and its
steps. -/
structure Plan where
  conduct : Option Conduct
  steps : List Step

/-- The steps of a conducted test, or of one that is only announced. -/
def Plan.of (settings : Settings) (path : String) (conduct : Option Conduct) : Plan :=
  let announcement := Step.announce (if settings.verbose then some path else none)
  match conduct with
  | none =>
    { conduct, steps := [announcement, .report path .dryRun, .conclude .dryRun] }
  | some done =>
    let status := done.record.status
    { conduct
      steps := announcement :: .work done.events :: .report path status :: .conclude status ::
        (done.record.entries path).map .write }

/-- Plans a test. It is conducted only if the settings say so. -/
def TestCase.plan (test : TestCase) (settings : Settings) (kernelLog : KernelLog)
    (surroundings : Surroundings) (path : String) : Plan :=
  Plan.of settings path <|
    if settings.execute then some (test.conduct settings kernelLog surroundings path) else none

/-- A test that has been executed: the way to it, what it left on what tests share, the events,
and the error if a result could not be written. -/
structure Execution where
  plan : Plan
  shared : Shared
  events : List Event
  failure : Option ExecuteError

/-- Takes the steps of a plan. -/
def Plan.execute (plan : Plan) (shared : Shared) : Execution :=
  let (task, shared, events) := Task.finish { remaining := plan.steps } shared
  { plan, shared, events, failure := task.failure }

/-- Executes a test. -/
def TestCase.execute (test : TestCase) (settings : Settings) (kernelLog : KernelLog)
    (surroundings : Surroundings) (path : String) (shared : Shared) : Execution :=
  (test.plan settings kernelLog surroundings path).execute shared

end Verdict
