import Verdict.Proofs.Execution.BrokenSinks
/-! The calls that executing a test makes, in their order. A test is announced first and then led
through its stages up to the first that does not succeed; however that ends, it is reported and
concluded once, with the verdict of its record and under the handle of its announcement, and only
then are its entries written. A dry run is announced, reported and concluded, and calls nothing
else. -/
namespace Verdict

/-! ### Calls -/

/-- A call made while a test is executed: to the log of progress, with the handle that it returns or
is given, to the kernel log or the test itself, to the host, and to the journal. -/
inductive Call where
  | announce (path : Option String) (handle : Nat)
  | reach (stage : Stage)
  | start (attempt : Attempt)
  | report (path : String) (status : Status)
  | conclude (handle : Nat) (status : Status)
  | write (entry : Entry)
  deriving DecidableEq

/-- The calls of stages: each stage that is reached, and after the run the processes that it has
started. -/
def stageCalls (attempts : List Attempt) (stages : List Stage) : List Call :=
  stages.flatMap fun stage => .reach stage :: if stage = .run then attempts.map .start else []

/-- The calls of a step of a test that holds a handle; the work of the test is to be conducted. -/
def Step.calls (conducting : List Call) (handle : Nat) (progress : Progress) : Step → List Call
  | .announce path => [.announce path progress.nextHandle]
  | .work _ => conducting
  | .report path status => [.report path status]
  | .conclude status => [.conclude handle status]
  | .write entry => [.write entry]

namespace Task

/-- The calls of the steps that a test takes until none is left. -/
def calls (conducting : List Call) (task : Task) (shared : Shared) : List Call :=
  match _left : task.remaining with
  | [] => []
  | step :: _ =>
    step.calls conducting task.handle shared.progress ++
      calls conducting (task.advance shared).1 (task.advance shared).2.1
termination_by task.remaining.length
decreasing_by exact advance_shortens task shared (by simp [_left])

variable (conducting : List Call)

private theorem calls_nil (handle : Nat) (failure : Option ExecuteError) (shared : Shared) :
    calls conducting ⟨handle, [], failure⟩ shared = [] := by
  rw [calls]

private theorem calls_cons (handle : Nat) (step : Step) (rest : List Step)
    (failure : Option ExecuteError) (shared : Shared) :
    calls conducting ⟨handle, step :: rest, failure⟩ shared =
      step.calls conducting handle shared.progress ++
        calls conducting (advance ⟨handle, step :: rest, failure⟩ shared).1
          (advance ⟨handle, step :: rest, failure⟩ shared).2.1 := by
  rw [calls]

/-- A test that has only entries left calls for those that it attempts to write. -/
private theorem calls_entries (entries : List Entry) (handle : Nat) (failure : Option ExecuteError)
    (shared : Shared) :
    calls conducting ⟨handle, entries.map .write, failure⟩ shared =
      ((history ⟨handle, entries.map .write, failure⟩ shared).filterMap Step.entry?).map
        .write := by
  induction entries generalizing failure shared with
  | nil =>
    rw [List.map_nil, calls_nil, history_nil]
    rfl
  | cons entry rest ih =>
    rw [List.map_cons, calls_cons, history_cons]
    simp only [advance]
    split
    · rw [ih]
      rfl
    · rw [calls_nil, history_nil]
      rfl
    · rw [calls_nil, history_nil]
      rfl

end Task

/-- The calls of taking the steps of a plan. -/
def Plan.calls (plan : Plan) (shared : Shared) : List Call :=
  let conducting := plan.conduct.elim [] fun conduct => stageCalls conduct.attempts conduct.stages
  Task.calls conducting { remaining := plan.steps } shared

/-! ### Replaying -/

/-- What a call makes of that which tests share, given nothing but the call. -/
def Call.replay (shared : Shared) : Call → Shared
  | .announce path _ => { shared with progress := (shared.progress.announce path).1 }
  | .conclude handle status =>
    { shared with progress := (shared.progress.conclude handle status).1 }
  | .write entry => { shared with sink := (shared.sink.writeEntry entry).1 }
  | .reach _ | .start _ | .report _ _ => shared

/-- Reaching stages and starting processes leaves alone what tests share. -/
private theorem replay_stageCalls (attempts : List Attempt) (stages : List Stage)
    (shared : Shared) : (stageCalls attempts stages).foldl Call.replay shared = shared := by
  have starts : (attempts.map Call.start).foldl Call.replay shared = shared := by
    rw [List.foldl_map]
    exact List.foldl_fixed' (fun _ => rfl) attempts
  induction stages with
  | nil => rfl
  | cons stage rest ih =>
    have reached : Call.replay shared (.reach stage) = shared := rfl
    rw [stageCalls, List.flatMap_cons, ← stageCalls, List.foldl_append, List.foldl_cons, reached]
    split
    · rw [starts, ih]
    · exact ih

/-- Replaying the calls of a step does what the step does. -/
private theorem Task.replay_advance {conducting : List Call}
    (silent : ∀ shared : Shared, conducting.foldl Call.replay shared = shared) (handle : Nat)
    (step : Step) (rest : List Step) (failure : Option ExecuteError) (shared : Shared) :
    (step.calls conducting handle shared.progress).foldl Call.replay shared =
      (advance ⟨handle, step :: rest, failure⟩ shared).2.1 := by
  cases step with
  | announce path => rfl
  | work events => exact silent shared
  | report path status => rfl
  | conclude status => rfl
  | write entry =>
    simp only [advance]
    split <;> rfl

/-- Replaying the calls of a test leaves what the test has left. -/
theorem Task.replay_calls {conducting : List Call}
    (silent : ∀ shared : Shared, conducting.foldl Call.replay shared = shared) (task : Task)
    (shared : Shared) :
    (task.calls conducting shared).foldl Call.replay shared = (task.finish shared).2.1 := by
  fun_induction Task.finish task shared
  case case1 task shared idle =>
    obtain ⟨handle, remaining, failure⟩ := task
    cases idle
    rw [calls_nil]
    rfl
  case case2 task shared busy next last after events finished ih =>
    obtain ⟨handle, remaining, failure⟩ := task
    obtain ⟨step, rest, rfl⟩ := List.exists_cons_of_ne_nil busy
    rw [finished] at ih
    rw [calls_cons, List.foldl_append, replay_advance silent handle step rest failure]
    exact ih

/-- The calls of a test are all that it does to the log of progress and to the sink. -/
theorem Plan.replay_calls (plan : Plan) (shared : Shared) :
    (plan.calls shared).foldl Call.replay shared = (plan.execute shared).shared := by
  refine Task.replay_calls (fun shared => ?_) { remaining := plan.steps } shared
  cases plan.conduct with
  | none => rfl
  | some conduct => exact replay_stageCalls conduct.attempts conduct.stages shared

/-! ### Stages -/

/-- The stages of a test, by how each of them ends: the kernel log is refreshed in any case, and
every other stage is reached exactly if all before it have succeeded. -/
structure TestCase.Reaches (test : TestCase) (settings : Settings) (kernelLog : KernelLog)
    (stages : List Stage) : Prop where
  order : ∃ record, stages <+: [.refresh, .before, .run, .annotate record]
  refresh : .refresh ∈ stages
  before : .before ∈ stages ↔ kernelLog.refresh = .ok ()
  run : .run ∈ stages ↔ kernelLog.refresh = .ok () ∧ test.before = .ok ()
  annotate (record : Record) : .annotate record ∈ stages ↔
    ∃ output, test.Ran settings kernelLog output ∧ output.Makes record

section
variable {test : TestCase} {settings : Settings} {kernelLog : KernelLog}

/-- A test that is not annotated has no output that makes a record. -/
theorem TestCase.Reaches.unannotated {stages : List Stage}
    (order : stages <+: [.refresh, .before, .run])
    (refresh : .refresh ∈ stages) (before : .before ∈ stages ↔ kernelLog.refresh = .ok ())
    (run : .run ∈ stages ↔ kernelLog.refresh = .ok () ∧ test.before = .ok ())
    (never : ∀ output record, test.Ran settings kernelLog output → ¬ output.Makes record) :
    test.Reaches settings kernelLog stages where
  order := ⟨.empty, order.trans (List.prefix_append _ [_])⟩
  refresh := refresh
  before := before
  run := run
  annotate record := by
    constructor
    · intro annotated
      simpa using order.subset annotated
    · rintro ⟨output, ran, makes⟩
      exact absurd makes (never output record ran)

theorem TestCase.reaches_course (test : TestCase) (settings : Settings)
    (kernelLog : KernelLog) (elapsed : Binary64) :
    test.Reaches settings kernelLog (test.course settings kernelLog elapsed).stages := by
  fun_cases TestCase.course test settings kernelLog elapsed with
  | case1 payload fails =>
    refine .unannotated ⟨[.before, .run], rfl⟩ (by simp) (by simp [fails]) (by simp [fails])
      fun _ _ ran => ?_
    cases fails.symm.trans ran.refreshed
  | case2 refreshed fault fails =>
    refine .unannotated ⟨[.run], rfl⟩ (by simp) (by simp [refreshed]) (by simp [fails])
      fun _ _ ran => ?_
    cases fails.symm.trans ran.prepared
  | case3 refreshed prepared run reached fault fails =>
    refine .unannotated (List.prefix_refl _) (by simp [reached]) (by simp [reached, refreshed])
      (by simp [reached, refreshed, prepared]) fun _ _ ran => ?_
    cases fails.symm.trans ran.returned
  | case4 refreshed prepared run reached output returned error refused =>
    refine .unannotated (List.prefix_refl _) (by simp [reached]) (by simp [reached, refreshed])
      (by simp [reached, refreshed, prepared]) fun other record ran makes => ?_
    cases returned.symm.trans ran.returned
    cases refused.symm.trans (TestOutput.makes_iff.mp makes)
  | case5 refreshed prepared run reached output returned record made annotated =>
    refine ⟨⟨record, List.prefix_refl _⟩, by simp [reached], by simp [reached, refreshed],
      by simp [reached, refreshed, prepared], fun other => ?_⟩
    constructor
    · intro member
      obtain rfl : other = record := by simpa [reached] using member
      exact ⟨output, ⟨refreshed, prepared, returned⟩, TestOutput.makes_iff.mpr made⟩
    · rintro ⟨also, ran, makes⟩
      cases returned.symm.trans ran.returned
      cases made.symm.trans (TestOutput.makes_iff.mp makes)
      simp [reached]

/-- The processes that a test starts are those of its run. -/
theorem TestCase.stageCalls_course (test : TestCase) (settings : Settings) (kernelLog : KernelLog)
    (elapsed : Binary64) :
    let course := test.course settings kernelLog elapsed
    stageCalls course.attempts course.stages =
      stageCalls (test.run settings).attempts course.stages := by
  fun_cases TestCase.course test settings kernelLog elapsed <;> rfl

private theorem TestCase.conduct_stages (test : TestCase) (settings : Settings)
    (kernelLog : KernelLog) (surroundings : Surroundings) (path : String) :
    let conduct := test.conduct settings kernelLog surroundings path
    test.Reaches settings kernelLog conduct.stages ∧
      stageCalls conduct.attempts conduct.stages =
        stageCalls (test.run settings).attempts conduct.stages := by
  simp only [conduct]
  split <;>
  exact ⟨test.reaches_course settings kernelLog _, test.stageCalls_course settings kernelLog _⟩

end

/-! ### Executed tests -/

/-- A planned test that is conducted: its announcement, its stages, its report and conclusion, and
the entries that it attempts to write. -/
private theorem Plan.calls_of_conduct (settings : Settings) (path : String) (done : Conduct)
    (shared : Shared) :
    let plan := Plan.of settings path (some done)
    let handle := shared.progress.nextHandle
    ∃ attempted, shared.sink.Attempts (done.record.entries path) attempted
        (plan.execute shared).failure (plan.execute shared).shared.sink ∧
      plan.calls shared =
        .announce (if settings.verbose then some path else none) handle ::
          stageCalls done.attempts done.stages ++
            .report path done.record.status :: .conclude handle done.record.status ::
              attempted.map .write := by
  intro plan handle
  obtain ⟨events, executed⟩ := Plan.execute_of settings path (some done) shared.progress
  obtain ⟨attempted, failure, after, attempts, ended, rfl⟩ := executed shared.sink
  have entries : plan.entries = done.record.entries path := filterMap_entry?_write _
  have execution : plan.execute shared = ⟨plan, ⟨_, after⟩, events, failure⟩ := ended
  refine ⟨_, by rwa [execution, ← entries], ?_⟩
  simp only [Plan.calls, plan, Plan.of, Task.calls_cons, Task.history_cons, Task.advance,
    Task.calls_entries]
  rfl

/-- A planned test that is not conducted: its announcement, its report and its conclusion, and no
call that reaches the sink. -/
private theorem Plan.calls_of_dryRun (settings : Settings) (path : String) (shared : Shared) :
    let plan := Plan.of settings path none
    let handle := shared.progress.nextHandle
    plan.calls shared =
        [.announce (if settings.verbose then some path else none) handle, .report path .dryRun,
          .conclude handle .dryRun] ∧
      (plan.execute shared).shared.sink = shared.sink := by
  intro plan handle
  constructor
  · simp only [Plan.calls, plan, Plan.of, Task.calls_cons, Task.calls_nil, Task.advance]
    rfl
  · simp only [Plan.execute, plan, Plan.of, Task.finish_cons, Task.finish_nil, Task.advance]

/-- Every test that is executed is announced first, with its path exactly in verbose mode. A dry run
is reported and concluded as one and makes no other call. Any other test is led through its stages,
each reached only if those before it have succeeded; then, whatever stopped it, it is reported and
concluded once, under the handle of its announcement and with the verdict of its record, and only
after that it attempts to write the entries of that record. Replaying these calls leaves the
progress and the sink as executing the test leaves them. -/
theorem execute_calls_in_order (test : TestCase) (settings : Settings) (kernelLog : KernelLog)
    (surroundings : Surroundings) (path : String) (shared : Shared) :
    let execution := test.execute settings kernelLog surroundings path shared
    let handle := shared.progress.nextHandle
    let announcement := Call.announce (if settings.verbose then some path else none) handle
    (settings.execute = false →
      execution.plan.calls shared =
          [announcement, .report path .dryRun, .conclude handle .dryRun] ∧
        execution.plan.conduct = none ∧ execution.shared.sink = shared.sink) ∧
    (settings.execute = true →
      ∃ record stages attempted,
        (∀ other, test.Concludes settings kernelLog surroundings other ↔ other = record) ∧
        test.Reaches settings kernelLog stages ∧
        shared.sink.Attempts (record.entries path) attempted execution.failure
          execution.shared.sink ∧
        execution.plan.calls shared =
          announcement :: stageCalls (test.run settings).attempts stages ++
            .report path record.status :: .conclude handle record.status ::
              attempted.map .write) ∧
    (execution.plan.calls shared).foldl Call.replay shared = execution.shared := by
  intro execution handle announcement
  refine ⟨?_, ?_, Plan.replay_calls _ shared⟩
  · intro dry
    have planned : test.plan settings kernelLog surroundings path = Plan.of settings path none := by
      simp [TestCase.plan, dry]
    obtain ⟨calls, untouched⟩ := Plan.calls_of_dryRun settings path shared
    simp only [execution, TestCase.execute, planned]
    exact ⟨calls, rfl, untouched⟩
  · intro enabled
    let done := test.conduct settings kernelLog surroundings path
    have planned :
        test.plan settings kernelLog surroundings path = Plan.of settings path (some done) := by
      simp [TestCase.plan, enabled, done]
    obtain ⟨reaches, starts⟩ := test.conduct_stages settings kernelLog surroundings path
    obtain ⟨attempted, attempts, calls⟩ := Plan.calls_of_conduct settings path done shared
    refine ⟨done.record, done.stages, attempted, fun other => TestCase.concludes_iff path, reaches,
      ?_, ?_⟩
    · simpa only [execution, TestCase.execute, planned] using attempts
    · rw [← starts]
      simp only [execution, TestCase.execute, planned]
      exact calls

/-- A test that passes after a process was not found, and whose record the kernel log cannot
annotate. -/
def unannotatedTest : TestCase where
  run _ :=
    { outcome := .ok (.record { result := some .pass })
      attempts := [⟨⟨"fbo", [], .empty⟩, .notFound⟩] }

/-- The fifth test of a run, once announced only and once executed: in both cases it is reported and
concluded under the fifth handle. -/
theorem execute_calls_in_order_of_unannotatedTest :
    let shared : Shared := { progress := { nextHandle := 4 } }
    let calls (settings : Settings) : List Call :=
      (unannotatedTest.execute settings .unavailable ⟨.zero, "main"⟩ "fbo" shared).plan.calls shared
    calls { execute := false, verbose := true } =
        [.announce (some "fbo") 4, .report "fbo" .dryRun, .conclude 4 .dryRun] ∧
      ∃ attempted : List Entry, calls {} =
        [.announce none 4, .reach .refresh, .reach .before, .reach .run,
          .start ⟨⟨"fbo", [], .empty⟩, .notFound⟩, .reach (.annotate { result := some .pass }),
          .report "fbo" .fail, .conclude 4 .fail] ++ attempted.map .write := by
  intro shared calls
  let passed : Record := { result := some .pass }
  obtain ⟨-, executed, -⟩ :=
    execute_calls_in_order unannotatedTest {} .unavailable ⟨.zero, "main"⟩ "fbo" shared
  obtain ⟨record, stages, attempted, concludes, reaches, -, called⟩ := executed rfl
  have ran : unannotatedTest.Ran {} .unavailable (.record passed) := ⟨rfl, rfl, rfl⟩
  have failed : record.status = .fail := by
    have stopped := (concludes _).mp
      (.stopped (.annotate ran (.record passed) rfl) (.panic (.text "kernel log unavailable")))
    rw [← stopped]
    rfl
  have all : stages = [.refresh, .before, .run, .annotate passed] := by
    have annotated := (reaches.annotate passed).mpr ⟨_, ran, .record passed⟩
    obtain ⟨other, order⟩ := reaches.order
    obtain rfl : passed = other := by simpa using order.subset annotated
    have split : stages <+: [.refresh, .before, .run] ++ [.annotate passed] := order
    rcases List.prefix_concat_iff.mp split with whole | early
    · exact whole
    · simpa using early.subset annotated
  refine ⟨?_, attempted, ?_⟩
  · exact ((execute_calls_in_order unannotatedTest { execute := false, verbose := true }
      .unavailable ⟨.zero, "main"⟩ "fbo" shared).1 rfl).1
  · rw [failed, all] at called
    exact called

end Verdict
