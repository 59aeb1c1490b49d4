import Verdict.Proofs.Execution.Entries
/-! How a test ends, whatever goes wrong on its way. A test is stopped by the first of its stages
that reports an error or panics, or it passes them all; either way it is concluded with one record,
which names the fault and nothing else, or is what the kernel log has left with what was lacking. -/
namespace Verdict

/-! ### Stages -/

/-- The record that an output is or is read as. -/
inductive TestOutput.Makes : TestOutput → Record → Prop
  | record (record : Record) : Makes (.record record) record
  | fields {fields : SortedMap Json} {record : Record}
    (read : Record.ofFields fields = .ok record) : Makes (.fields fields) record

section
variable (test : TestCase) (settings : Settings) (kernelLog : KernelLog)

/-- A test that ran to its end. -/
structure TestCase.Ran (output : TestOutput) : Prop where
  refreshed : kernelLog.refresh = .ok ()
  prepared : test.before = .ok ()
  returned : (test.run settings).outcome = .ok output

/-- A test that one of its stages stopped: all stages before it were passed. -/
inductive TestCase.Stops : Fault → Prop
  | refresh {payload : Payload} (fails : kernelLog.refresh = .error payload) :
    Stops (.panic payload)
  | before {fault : Fault} (refreshed : kernelLog.refresh = .ok ())
    (fails : test.before = .error fault) : Stops fault
  | run {fault : Fault} (refreshed : kernelLog.refresh = .ok ()) (prepared : test.before = .ok ())
    (fails : (test.run settings).outcome = .error fault) : Stops fault
  | coerce {fields : SortedMap Json} {error : FieldError}
    (ran : test.Ran settings kernelLog (.fields fields))
    (fails : Record.ofFields fields = .error error) :
    Stops (.error (.invalidOutput [error.message]))
  | annotate {output : TestOutput} {record : Record} {payload : Payload}
    (ran : test.Ran settings kernelLog output) (makes : output.Makes record)
    (fails : kernelLog.annotate record = .error payload) : Stops (.panic payload)

/-- A test that passed all stages, with its output and the record that the kernel log left. -/
structure TestCase.Passes (output : TestOutput) (annotated : Record) : Prop where
  ran : test.Ran settings kernelLog output
  annotates : ∃ record, output.Makes record ∧ kernelLog.annotate record = .ok annotated

end

/-! ### Records -/

/-- One line per cause, in their order. -/
inductive CauseLines : List String → String → Prop
  | none : CauseLines [] ""
  | cause (cause : String) {causes : List String} {text : String} (rest : CauseLines causes text) :
    CauseLines (cause :: causes) ("\n  - " ++ cause ++ text)

/-- A message alone, or followed by all its causes. -/
inductive Chain (message : String) : List String → String → Prop
  | alone : Chain message [] message
  | caused {causes : List String} {text : String} (some : causes ≠ [])
    (lines : CauseLines causes text) : Chain message causes (message ++ "\n  caused by:" ++ text)

/-- How a record names a fault, and where it says that the fault came from. -/
inductive Fault.Told : Fault → String → String → Prop
  | error {error : RunError} {chain : String} (chained : Chain error.message error.causes chain) :
    Told (.error error) ("RunError::" ++ error.kind ++ ": " ++ error.message) chain
  | panic (payload : Payload) : Told (.panic payload) ("panic: " ++ payload.message) "test panicked"

/-- A record as the kernel log has left it, with what it lacked: a time, and a verdict unless the
output was loose, which is always a warning. -/
structure Record.Completed (annotated : Record) (output : TestOutput) (elapsed : Binary64)
    (record : Record) : Prop where
  kept : record =
    { annotated with time := record.time, result := record.result, note := record.note }
  time : record.time = some (annotated.time.getD elapsed)
  strict {returned : Record} (whole : output = .record returned) :
    record.result = some (annotated.result.getD .fail) ∧ record.note = annotated.note
  loose {fields : SortedMap Json} (loose : output = .fields fields) :
    record.result = some .warn ∧ record.note = some "Result not returned as a ResultRecord"

/-- The record that a test is concluded with. -/
inductive TestCase.Concludes (test : TestCase) (settings : Settings) (kernelLog : KernelLog)
    (surroundings : Surroundings) : Record → Prop
  | stopped {fault : Fault} {exception origin : String}
    (stops : test.Stops settings kernelLog fault) (told : fault.Told exception origin) :
    Concludes test settings kernelLog surroundings
      { result := some .fail, exception := some exception
        traceback := some (origin ++ "\n\ncontained at:\n" ++ surroundings.backtrace) }
  | passed {output : TestOutput} {annotated record : Record}
    (passes : test.Passes settings kernelLog output annotated)
    (completed : annotated.Completed output surroundings.elapsed record) :
    Concludes test settings kernelLog surroundings record

private theorem causeLines_iff {causes : List String} {text : String} :
    CauseLines causes text ↔ text = String.join (causes.map ("\n  - " ++ ·)) := by
  constructor
  · intro lines
    induction lines with
    | none => rfl
    | cause cause rest ih => rw [ih, List.map_cons, String.join_cons]
  · rintro rfl
    induction causes with
    | nil => exact .none
    | cons cause causes ih =>
      rw [List.map_cons, String.join_cons]
      exact .cause cause ih

private theorem chain_iff {message text : String} {causes : List String} :
    Chain message causes text ↔ text = chainText message causes := by
  constructor
  · rintro (_ | ⟨some, lines⟩)
    · rfl
    · cases causes with
      | nil => exact absurd rfl some
      | cons cause causes =>
        rw [causeLines_iff.mp lines]
        rfl
  · rintro rfl
    cases causes with
    | nil => exact .alone
    | cons cause causes => exact .caused (List.cons_ne_nil _ _) (causeLines_iff.mpr rfl)

private theorem Fault.told_iff {fault : Fault} {exception origin : String} :
    fault.Told exception origin ↔ exception = fault.exception ∧ origin = fault.origin := by
  constructor
  · rintro (chained | payload)
    · exact ⟨rfl, chain_iff.mp chained⟩
    · exact ⟨rfl, rfl⟩
  · rintro ⟨rfl, rfl⟩
    cases fault with
    | error error => exact .error (chain_iff.mpr rfl)
    | panic payload => exact .panic payload

private theorem Record.completed_iff {annotated record : Record} {output : TestOutput}
    {elapsed : Binary64} : annotated.Completed output elapsed record ↔
      record = annotated.complete output.isLoose elapsed := by
  constructor
  · intro completed
    rw [completed.kept]
    cases output with
    | record returned =>
      obtain ⟨result, note⟩ := completed.strict rfl
      rw [completed.time, result, note]
      rfl
    | fields fields =>
      obtain ⟨result, note⟩ := completed.loose rfl
      rw [completed.time, result, note]
      rfl
  · rintro rfl
    cases output with
    | record returned => exact ⟨rfl, rfl, fun _ => ⟨rfl, rfl⟩, nofun⟩
    | fields fields => exact ⟨rfl, rfl, nofun, fun _ => ⟨rfl, rfl⟩⟩

/-! ### Courses -/

section
variable {test : TestCase} {settings : Settings} {kernelLog : KernelLog} {elapsed : Binary64}

theorem TestOutput.makes_iff {output : TestOutput} {record : Record} :
    output.Makes record ↔ output.toRecord = .ok record := by
  constructor
  · rintro (record | read)
    · rfl
    · rw [TestOutput.toRecord, read]
      rfl
  · intro made
    cases output with
    | record returned =>
      cases made
      exact .record _
    | fields fields =>
      cases read : Record.ofFields fields with
      | error error =>
        rw [TestOutput.toRecord, read] at made
        cases made
      | ok other =>
        rw [TestOutput.toRecord, read] at made
        cases made
        exact .fields read

private theorem TestCase.Stops.outcome {fault : Fault}
    (stops : test.Stops settings kernelLog fault) :
    (test.course settings kernelLog elapsed).outcome = .error fault := by
  cases stops with
  | refresh fails => simp [course, fails]
  | before refreshed fails => simp [course, refreshed, fails]
  | run refreshed prepared fails => simp [course, refreshed, prepared, fails]
  | @coerce fields error ran fails =>
    have refused : (TestOutput.fields fields).toRecord =
        .error (.invalidOutput [error.message]) := by
      rw [TestOutput.toRecord, fails]
      rfl
    simp [course, ran.refreshed, ran.prepared, ran.returned, refused]
  | annotate ran makes fails =>
    have made := TestOutput.makes_iff.mp makes
    simp only [course, ran.refreshed, ran.prepared, ran.returned, made, fails]
    rfl

private theorem TestCase.Passes.outcome {output : TestOutput} {annotated : Record}
    (passes : test.Passes settings kernelLog output annotated) :
    (test.course settings kernelLog elapsed).outcome =
      .ok (annotated.complete output.isLoose elapsed) := by
  obtain ⟨ran, record, makes, annotates⟩ := passes
  have made := TestOutput.makes_iff.mp makes
  simp only [course, ran.refreshed, ran.prepared, ran.returned, made, annotates]
  rfl

/-- Every test is stopped by a stage or passes them all. -/
theorem TestCase.stops_or_passes (test : TestCase) (settings : Settings) (kernelLog : KernelLog) :
    (∃ fault, test.Stops settings kernelLog fault) ∨
      ∃ output annotated, test.Passes settings kernelLog output annotated := by
  cases refreshed : kernelLog.refresh with
  | error payload => exact .inl ⟨_, .refresh refreshed⟩
  | ok =>
    cases prepared : test.before with
    | error fault => exact .inl ⟨fault, .before refreshed prepared⟩
    | ok =>
      cases returned : (test.run settings).outcome with
      | error fault => exact .inl ⟨fault, .run refreshed prepared returned⟩
      | ok output =>
        have ran : test.Ran settings kernelLog output := ⟨refreshed, prepared, returned⟩
        obtain ⟨record, makes⟩ | ⟨fields, error, rfl, refused⟩ :
            (∃ record, output.Makes record) ∨
              ∃ fields error, output = .fields fields ∧ Record.ofFields fields = .error error := by
          cases output with
          | record record => exact .inl ⟨record, .record record⟩
          | fields fields =>
            cases read : Record.ofFields fields with
            | ok record => exact .inl ⟨record, .fields read⟩
            | error error => exact .inr ⟨fields, error, rfl, read⟩
        · cases annotates : kernelLog.annotate record with
          | error payload => exact .inl ⟨_, .annotate ran makes annotates⟩
          | ok annotated => exact .inr ⟨output, annotated, ran, record, makes, annotates⟩
        · exact .inl ⟨_, .coerce ran refused⟩

/-- The record that a test is concluded with is the one that conducting it comes to. -/
theorem TestCase.concludes_iff {surroundings : Surroundings} {record : Record} (path : String) :
    test.Concludes settings kernelLog surroundings record ↔
      record = (test.conduct settings kernelLog surroundings path).record := by
  unfold conduct
  constructor
  · rintro (⟨stops, told⟩ | ⟨passes, completed⟩)
    · obtain ⟨rfl, rfl⟩ := Fault.told_iff.mp told
      simp only [stops.outcome]
      rfl
    · simp only [passes.outcome]
      exact Record.completed_iff.mp completed
  · rintro rfl
    rcases test.stops_or_passes settings kernelLog with ⟨fault, stops⟩ | ⟨output, annotated, passes⟩
    · simp only [stops.outcome]
      exact .stopped stops (Fault.told_iff.mpr ⟨rfl, rfl⟩)
    · simp only [passes.outcome]
      exact .passed passes (Record.completed_iff.mpr rfl)

end

/-! ### Reports -/

/-- The path and verdict that a step reports, if it reports any. -/
def Step.reported? : Step → Option (String × Status)
  | .report path status => some (path, status)
  | _ => none

/-- The verdict that a step concludes a test with, if it concludes one. -/
def Step.concluded? : Step → Option Status
  | .conclude status => some status
  | _ => none

namespace Task

theorem tally_advance (handle : Nat) (step : Step) (rest : List Step)
    (failure : Option ExecuteError) (shared : Shared) :
    (advance ⟨handle, step :: rest, failure⟩ shared).2.1.progress.tally =
      shared.progress.tally.addAll step.concluded?.toList := by
  cases step with
  | write entry =>
    simp only [advance]
    split <;> rfl
  | _ => rfl

/-- On a working sink all verdicts of a test are counted. -/
theorem tally_finish (steps : List Step) (handle : Nat) (failure : Option ExecuteError)
    {shared : Shared} (working : shared.sink.Working) :
    (finish ⟨handle, steps, failure⟩ shared).2.1.progress.tally =
      shared.progress.tally.addAll (steps.filterMap Step.concluded?) := by
  induction steps generalizing handle shared with
  | nil =>
    rw [finish, dif_pos rfl]
    rfl
  | cons step rest ih =>
    obtain ⟨⟨next, stepped⟩, works, -⟩ := advance_working handle step rest failure working
    rw [finish, dif_neg (by simp)]
    simp only [stepped]
    rw [ih next works, tally_advance, ← Tally.addAll_append]
    cases concluded : step.concluded? <;> simp [concluded]

end Task

section
variable {test : TestCase} {settings : Settings} {kernelLog : KernelLog}
  {surroundings : Surroundings} {path : String} {shared : Shared}

/-- Apart from its entries, a conducted test reports and concludes its verdict, each once. -/
theorem reports_of_execute (enabled : settings.execute = true) :
    let plan := (test.execute settings kernelLog surroundings path shared).plan
    let record := (test.conduct settings kernelLog surroundings path).record
    plan.steps.filterMap Step.reported? = [(path, record.status)] ∧
      plan.steps.filterMap Step.concluded? = [record.status] := by
  intro plan record
  have silent : (((record.entries path).map Step.write).filterMap Step.reported? = []) ∧
      (((record.entries path).map Step.write).filterMap Step.concluded? = []) := by
    constructor <;>
    · rw [List.filterMap_map, List.filterMap_eq_nil_iff]
      exact fun _ _ => rfl
  obtain ⟨path?, events, steps⟩ : ∃ path? events, plan.steps = .announce path? :: .work events ::
      .report path record.status :: .conclude record.status ::
        (record.entries path).map .write := by
    simp only [plan, TestCase.execute, Plan.execute, TestCase.plan, enabled, if_true, Plan.of]
    exact ⟨_, _, rfl⟩
  rw [steps]
  exact ⟨congrArg ((path, record.status) :: ·) silent.1, congrArg (record.status :: ·) silent.2⟩

/-- Every record that a test writes has a verdict, because the one it is concluded with has. -/
theorem result_isSome_of_concludes {record : Record}
    (concludes : test.Concludes settings kernelLog surroundings record) :
    ∀ entry ∈ record.entries path, entry.record.result.isSome = true := by
  have own : record.result.isSome = true := by
    rcases concludes with ⟨-, -⟩ | ⟨-, completed⟩
    · rfl
    · rw [Record.completed_iff.mp completed, Record.complete]
      split <;> rfl
  exact (forall_entries_iff (·.isSome = true) own).mpr (.inr fun _ _ => rfl)

end

/-- A test whose entries can be written never fails to end, whatever goes wrong on its way. It
reports and concludes one record: the fault that stopped it, with its causes and no trace of what
was half finished, or the annotated record with what it lacked. The entries written are those of the
record, and each has a verdict. -/
theorem execute_contains_faults (test : TestCase) (settings : Settings) (kernelLog : KernelLog)
    (surroundings : Surroundings) (path : String) (shared : Shared)
    (enabled : settings.execute = true) (working : shared.sink.Working) :
    let execution := test.execute settings kernelLog surroundings path shared
    execution.failure = none ∧
      ∃ record, (∀ other, test.Concludes settings kernelLog surroundings other ↔ other = record) ∧
        execution.plan.steps.filterMap Step.reported? = [(path, record.status)] ∧
        execution.shared.progress.tally = shared.progress.tally.add record.status ∧
        execution.plan.entries = record.entries path ∧
        execution.shared.sink.taken =
          shared.sink.taken ++ (record.entries path).flatMap Entry.octets ∧
        ∀ entry ∈ record.entries path, entry.record.result.isSome = true := by
  intro execution
  let record := (test.conduct settings kernelLog surroundings path).record
  have concludes : ∀ other, test.Concludes settings kernelLog surroundings other ↔
      other = record := fun other => TestCase.concludes_iff path
  obtain ⟨failure, taken⟩ := execution.plan.execute_working working
  obtain ⟨reported, concluded⟩ :
      execution.plan.steps.filterMap Step.reported? = [(path, record.status)] ∧
        execution.plan.steps.filterMap Step.concluded? = [record.status] :=
    reports_of_execute enabled
  have counted := Task.tally_finish execution.plan.steps 0 none working
  have entries : execution.plan.entries = record.entries path := entries_of_execute enabled
  refine ⟨failure, record, concludes, reported, ?_, entries, ?_, ?_⟩
  · rw [concluded] at counted
    exact counted
  · rw [← entries]
    exact taken
  · exact result_isSome_of_concludes ((concludes record).mpr rfl)

/-- A kernel log that cannot be read after a pass: nothing of the pass is left. -/
theorem execute_contains_annotation_panic :
    let test : TestCase :=
      { run := fun _ =>
          { outcome := .ok (.record { result := some .pass, note := some "all formats" }) } }
    let execution := test.execute {} .unavailable ⟨.zero, "main"⟩ "spec/fbo" {}
    execution.failure = none ∧ execution.plan.entries = [⟨"spec/fbo",
      { result := some .fail, exception := some "panic: kernel log unavailable"
        traceback := some "test panicked\n\ncontained at:\nmain" }⟩] := by
  intro test execution
  obtain ⟨failure, record, concludes, -, -, entries, -⟩ :=
    execute_contains_faults test {} .unavailable ⟨.zero, "main"⟩ "spec/fbo" {} rfl
      ⟨by decide, by simp, by simp⟩
  have stopped := (concludes _).mp
    (.stopped (.annotate ⟨rfl, rfl, rfl⟩ (.record _) rfl) (.panic (.text "kernel log unavailable")))
  refine ⟨failure, entries.trans ?_⟩
  rw [← stopped, entries_of_few (by decide)]
  rfl

end Verdict
