import Verdict.Proofs.Execution.Interleaving
/-! Tests executed one after the other on a sink that may fail or panic at any call. A test writes
its entries in their order, each only when the one before it was written, and ends with the error of
the first that cannot be. What the sink does is neither in the progress nor in the way of a later
test: each test begins to write where the one before it has left the sink. -/
namespace Verdict

/-! ### Attempts -/

/-- Entries are written one after the other, all of them. -/
inductive Sink.Writes : Sink → List Entry → Sink → Prop
  | none (sink : Sink) : Writes sink [] sink
  | entry {sink between after : Sink} {entry : Entry} {rest : List Entry}
    (written : sink.writeEntry entry = (between, .ok)) (more : Writes between rest after) :
    Writes sink (entry :: rest) after

/-- Which of some entries are attempted, the error of the one that cannot be written, and the sink
after that: all entries, or those up to the first that fails or panics and no further. -/
inductive Sink.Attempts (sink : Sink) (entries : List Entry) :
    List Entry → Option ExecuteError → Sink → Prop
  | all {after : Sink} (writes : sink.Writes entries after) :
    Attempts sink entries entries none after
  | failed {written rest : List Entry} {entry : Entry} {between after : Sink} {cause : String}
    (listed : entries = written ++ entry :: rest) (writes : sink.Writes written between)
    (fails : between.writeEntry entry = (after, .failed cause)) :
    Attempts sink entries (written ++ [entry]) (some (.write entry.path cause)) after
  | panicked {written rest : List Entry} {entry : Entry} {between after : Sink}
    (listed : entries = written ++ entry :: rest) (writes : sink.Writes written between)
    (panics : between.writeEntry entry = (after, .panicked)) :
    Attempts sink entries (written ++ [entry]) (some .panic) after

variable {sink : Sink} {entries : List Entry}

private theorem Sink.Attempts.poisoned {attempted : List Entry} {failure : Option ExecuteError}
    {after : Sink} (attempts : sink.Attempts entries attempted failure after)
    (panics : failure = some .panic) : after.poisoned = true := by
  cases attempts with
  | all writes => cases panics
  | failed listed writes fails => cases panics
  | panicked listed writes panicked => exact poisoned_of_panicked panicked

/-- One more entry in front that is written. -/
private theorem Sink.Attempts.cons {entry : Entry} {between after : Sink} {attempted : List Entry}
    {failure : Option ExecuteError} (written : sink.writeEntry entry = (between, .ok))
    (attempts : between.Attempts entries attempted failure after) :
    sink.Attempts (entry :: entries) (entry :: attempted) failure after := by
  cases attempts with
  | all writes => exact .all (.entry written writes)
  | failed listed writes fails =>
    exact .failed (congrArg (entry :: ·) listed) (.entry written writes) fails
  | panicked listed writes panics =>
    exact .panicked (congrArg (entry :: ·) listed) (.entry written writes) panics

theorem Sink.Working.writes (working : sink.Working) {after : Sink}
    (writes : sink.Writes entries after) :
    after.Working ∧ after.taken = sink.taken ++ entries.flatMap Entry.octets := by
  induction writes with
  | none sink => exact ⟨working, (List.append_nil _).symm⟩
  | entry written more ih =>
    obtain ⟨_, writtenToo, works, taken⟩ := working.writeEntry _
    cases written.symm.trans writtenToo
    obtain ⟨worksLast, takenLast⟩ := ih works
    exact ⟨worksLast, by rw [takenLast, taken, List.flatMap_cons, List.append_assoc]⟩

/-- On a working sink no attempt fails, and the lines of all entries arrive. -/
theorem Sink.Working.attempts (working : sink.Working) {attempted : List Entry}
    {failure : Option ExecuteError} {after : Sink}
    (attempts : sink.Attempts entries attempted failure after) :
    failure = none ∧ after.taken = sink.taken ++ entries.flatMap Entry.octets := by
  cases attempts with
  | all writes => exact ⟨rfl, (working.writes writes).2⟩
  | failed listed writes fails =>
    obtain ⟨_, written, -⟩ := (working.writes writes).1.writeEntry _
    cases fails.symm.trans written
  | panicked listed writes panics =>
    obtain ⟨_, written, -⟩ := (working.writes writes).1.writeEntry _
    cases panics.symm.trans written

/-! ### Steps -/

namespace Task

theorem finish_nil (handle : Nat) (failure : Option ExecuteError) (shared : Shared) :
    finish ⟨handle, [], failure⟩ shared = (⟨handle, [], failure⟩, shared, []) := by
  rw [finish, dif_pos rfl]

theorem finish_cons (handle : Nat) (step : Step) (rest : List Step)
    (failure : Option ExecuteError) (shared : Shared) :
    finish ⟨handle, step :: rest, failure⟩ shared =
      let next := advance ⟨handle, step :: rest, failure⟩ shared
      let last := finish next.1 next.2.1
      (last.1, last.2.1, next.2.2 ++ last.2.2) := by
  rw [finish, dif_neg (by simp)]

/-- The steps that a test takes until none is left. -/
def history (task : Task) (shared : Shared) : List Step :=
  match _left : task.remaining with
  | [] => []
  | step :: _ => step :: history (task.advance shared).1 (task.advance shared).2.1
termination_by task.remaining.length
decreasing_by exact advance_shortens task shared (by simp [_left])

theorem history_nil (handle : Nat) (failure : Option ExecuteError) (shared : Shared) :
    history ⟨handle, [], failure⟩ shared = [] := by
  rw [history]

theorem history_cons (handle : Nat) (step : Step) (rest : List Step)
    (failure : Option ExecuteError) (shared : Shared) :
    history ⟨handle, step :: rest, failure⟩ shared =
      step :: history (advance ⟨handle, step :: rest, failure⟩ shared).1
        (advance ⟨handle, step :: rest, failure⟩ shared).2.1 := by
  rw [history]

/-- A step that writes nothing does the same on every sink and leaves it alone. -/
private theorem advance_silent {step : Step} (silent : step.entry? = none) (handle : Nat)
    (progress : Progress) :
    ∃ events, ∀ rest failure sink,
      advance ⟨handle, step :: rest, failure⟩ ⟨progress, sink⟩ =
        (⟨(step.mark handle progress).1, rest, failure⟩, ⟨(step.mark handle progress).2, sink⟩,
          events) := by
  cases step with
  | announce path => exact ⟨(progress.announce path).2, fun _ _ _ => rfl⟩
  | work events => exact ⟨events, fun _ _ _ => rfl⟩
  | report path status => exact ⟨Progress.report path status, fun _ _ _ => rfl⟩
  | conclude status => exact ⟨(progress.conclude handle status).2, fun _ _ _ => rfl⟩
  | write entry => cases silent

/-- Steps that write nothing are all taken, and they do the same on every sink. -/
private theorem finish_silent {silent : List Step} (allSilent : ∀ step ∈ silent, step.entry? = none)
    (handle : Nat) (progress : Progress) :
    ∃ events, ∀ rest failure sink,
      let marked := silent.foldl (fun state step => step.mark state.1 state.2) (handle, progress)
      let last := finish ⟨marked.1, rest, failure⟩ ⟨marked.2, sink⟩
      finish ⟨handle, silent ++ rest, failure⟩ ⟨progress, sink⟩ =
        (last.1, last.2.1, events ++ last.2.2) ∧
      history ⟨handle, silent ++ rest, failure⟩ ⟨progress, sink⟩ =
        silent ++ history ⟨marked.1, rest, failure⟩ ⟨marked.2, sink⟩ := by
  induction silent generalizing handle progress with
  | nil => exact ⟨[], fun _ _ _ => ⟨rfl, rfl⟩⟩
  | cons step silent ih =>
    obtain ⟨isSilent, allSilent⟩ := List.forall_mem_cons.mp allSilent
    obtain ⟨first, advanced⟩ := advance_silent isSilent handle progress
    obtain ⟨others, finished⟩ :=
      ih allSilent (step.mark handle progress).1 (step.mark handle progress).2
    refine ⟨first ++ others, fun rest failure sink => ?_⟩
    obtain ⟨ended, taken⟩ := finished rest failure sink
    rw [List.cons_append, finish_cons, history_cons, advanced]
    simp only [ended, taken, List.append_assoc, List.foldl_cons, List.cons_append, and_self]

/-- A test that has only entries left attempts them on the sink as it is, and changes neither its
handle nor the progress. -/
private theorem finish_entries (entries : List Entry) (handle : Nat) (progress : Progress)
    (sink : Sink) : ∃ attempted failure after, sink.Attempts entries attempted failure after ∧
      finish ⟨handle, entries.map .write, none⟩ ⟨progress, sink⟩ =
        (⟨handle, [], failure⟩, ⟨progress, after⟩, []) ∧
      history ⟨handle, entries.map .write, none⟩ ⟨progress, sink⟩ = attempted.map .write := by
  induction entries generalizing sink with
  | nil => exact ⟨[], none, sink, .all (.none sink), finish_nil .., history_nil ..⟩
  | cons entry rest ih =>
    obtain ⟨between, outcome, written⟩ :
        ∃ between outcome, sink.writeEntry entry = (between, outcome) := ⟨_, _, rfl⟩
    rw [List.map_cons, finish_cons, history_cons]
    simp only [advance, written]
    cases outcome with
    | ok =>
      obtain ⟨attempted, failure, after, attempts, finished, taken⟩ := ih between
      refine ⟨entry :: attempted, failure, after, attempts.cons written, ?_, ?_⟩
      · simp only [finished]
        rfl
      · rw [taken, List.map_cons]
    | failed cause =>
      refine ⟨[entry], _, between, .failed rfl (.none sink) written, ?_, ?_⟩
      · simp only [finish_nil]
        rfl
      · rw [history_nil]
        rfl
    | panicked =>
      refine ⟨[entry], _, between, .panicked rfl (.none sink) written, ?_, ?_⟩
      · simp only [finish_nil]
        rfl
      · rw [history_nil]
        rfl

end Task

/-! ### A poisoned lock -/

/-- What tests share, with a lock that nobody has poisoned. -/
def Shared.healed (shared : Shared) : Shared := { shared with sink := shared.sink.healed }

namespace Task

private theorem advance_healed (task : Task) (shared : Shared) :
    (task.advance shared.healed).1 = (task.advance shared).1 ∧
      (task.advance shared.healed).2.1.healed = (task.advance shared).2.1.healed ∧
      (task.advance shared.healed).2.2 = (task.advance shared).2.2 := by
  obtain ⟨handle, remaining, failure⟩ := task
  cases remaining with
  | nil => exact ⟨rfl, rfl, rfl⟩
  | cons step rest =>
    cases step with
    | write entry =>
      obtain ⟨left, ended⟩ := shared.sink.writeEntry_healed entry
      simp only [advance, Shared.healed, ended]
      cases (shared.sink.writeEntry entry).2 <;> simp [left]
    | _ => exact ⟨rfl, rfl, rfl⟩

/-- One step on two states that differ only in a poisoned lock. -/
private theorem advance_congr (task : Task) {left right : Shared}
    (same : left.healed = right.healed) :
    (task.advance left).1 = (task.advance right).1 ∧
      (task.advance left).2.1.healed = (task.advance right).2.1.healed ∧
      (task.advance left).2.2 = (task.advance right).2.2 := by
  obtain ⟨taskLeft, sharedLeft, eventsLeft⟩ := task.advance_healed left
  obtain ⟨taskRight, sharedRight, eventsRight⟩ := task.advance_healed right
  rw [← taskLeft, ← sharedLeft, ← eventsLeft, same]
  exact ⟨taskRight, sharedRight, eventsRight⟩

/-- A whole test does not depend on whether the lock is poisoned. -/
theorem finish_congr (task : Task) {left right : Shared} (same : left.healed = right.healed) :
    (task.finish left).1 = (task.finish right).1 ∧
      (task.finish left).2.1.healed = (task.finish right).2.1.healed ∧
      (task.finish left).2.2 = (task.finish right).2.2 := by
  fun_induction Task.finish task left generalizing right
  case case1 task left idle =>
    rw [finish, dif_pos idle]
    exact ⟨rfl, same, rfl⟩
  case case2 task left busy next last shared events finished ih =>
    obtain ⟨stepped, kept, stepEvents⟩ := task.advance_congr same
    obtain ⟨ended, keptLast, moreEvents⟩ := ih kept
    rw [finished] at ended keptLast moreEvents
    rw [finish, dif_neg busy]
    simp only [← stepped, ← stepEvents]
    exact ⟨ended, keptLast, congrArg (next.2.2 ++ ·) moreEvents⟩

end Task

/-! ### Tests -/

/-- The progress after a test that was announced and concluded. -/
def Progress.after (progress : Progress) (path : Option String) (status : Status) : Progress :=
  ((progress.announce path).1.conclude progress.nextHandle status).1

/-- The steps of a plan before its entries write nothing; they announce and conclude its test. -/
private theorem Plan.steps_of (settings : Settings) (path : String) (conduct : Option Conduct)
    (progress : Progress) :
    let plan := Plan.of settings path conduct
    ∃ silent, plan.steps = silent ++ plan.entries.map .write ∧
      (∀ step ∈ silent, step.entry? = none) ∧
      (silent.foldl (fun state step => step.mark state.1 state.2) (0, progress)).2 =
        progress.after (if settings.verbose then some path else none)
          (conduct.elim .dryRun (·.record.status)) := by
  intro plan
  let announcement := Step.announce (if settings.verbose then some path else none)
  cases conduct with
  | none =>
    exact ⟨[announcement, .report path .dryRun, .conclude .dryRun], rfl,
      by simp [announcement, Step.entry?], rfl⟩
  | some done =>
    let status := done.record.status
    have entries : plan.entries = done.record.entries path := filterMap_entry?_write _
    refine ⟨[announcement, .work done.events, .report path status, .conclude status], ?_,
      by simp [announcement, Step.entry?], rfl⟩
    rw [entries]
    rfl

/-- A planned test makes the same of the progress and leaves the same events on every sink, and it
attempts its entries on the sink as it is. -/
theorem Plan.execute_of (settings : Settings) (path : String) (conduct : Option Conduct)
    (progress : Progress) :
    let plan := Plan.of settings path conduct
    let last := progress.after (if settings.verbose then some path else none)
      (conduct.elim .dryRun (·.record.status))
    ∃ events, ∀ sink : Sink, ∃ attempted failure after,
      sink.Attempts plan.entries attempted failure after ∧
      plan.execute ⟨progress, sink⟩ = ⟨plan, ⟨last, after⟩, events, failure⟩ ∧
      (Task.history { remaining := plan.steps } ⟨progress, sink⟩).filterMap Step.entry? =
        attempted := by
  intro plan last
  obtain ⟨silent, steps, allSilent, marked⟩ :
      ∃ silent, plan.steps = silent ++ plan.entries.map .write ∧
        (∀ step ∈ silent, step.entry? = none) ∧
        (silent.foldl (fun state step => step.mark state.1 state.2) (0, progress)).2 = last :=
    Plan.steps_of settings path conduct progress
  obtain ⟨events, finished⟩ := Task.finish_silent allSilent 0 progress
  refine ⟨events, fun sink => ?_⟩
  obtain ⟨ended, taken⟩ := finished (plan.entries.map .write) none sink
  obtain ⟨attempted, failure, after, attempts, written, attemptsTaken⟩ :=
    Task.finish_entries plan.entries
      (silent.foldl (fun state step => step.mark state.1 state.2) (0, progress)).1 last sink
  refine ⟨attempted, failure, after, attempts, ?_, ?_⟩
  · rw [Plan.execute, steps, ended, marked, written]
    simp
  · have none : silent.filterMap Step.entry? = [] := List.filterMap_eq_nil_iff.mpr allSilent
    rw [steps, taken, marked, attemptsTaken, List.filterMap_append, none,
      filterMap_entry?_write, List.nil_append]

private theorem Progress.tally_after (progress : Progress) (path : Option String)
    (status : Status) : (progress.after path status).tally = progress.tally.add status := rfl

/-- A test that begins while none is running leaves none running. -/
private theorem Progress.running_after {progress : Progress} (idle : progress.running = [])
    (path : Option String) (status : Status) : (progress.after path status).running = [] := by
  simp [Progress.after, announce, conclude, idle]

/-! ### Jobs -/

namespace Job

/-- How the test is conducted, unless it is only announced. -/
def conduct? (job : Job) : Option Conduct :=
  if job.settings.execute then
    some (job.test.conduct job.settings job.kernelLog job.surroundings job.path)
  else none

/-- The verdict that the test is concluded with. -/
def verdict (job : Job) : Status := job.conduct?.elim .dryRun (·.record.status)

/-- The path under which the test is announced. -/
def announced (job : Job) : Option String := if job.settings.verbose then some job.path else none

/-- The entries that the test attempts to write: those of the steps that it takes. -/
def attempted (job : Job) (shared : Shared) : List Entry :=
  (Task.history { remaining := job.plan.steps } shared).filterMap Step.entry?

private theorem execute_of (job : Job) (progress : Progress) :
    ∃ events, ∀ sink : Sink, ∃ failure after,
      sink.Attempts job.entries (job.attempted ⟨progress, sink⟩) failure after ∧
      job.execute ⟨progress, sink⟩ =
        ⟨job.plan, ⟨progress.after job.announced job.verdict, after⟩, events, failure⟩ := by
  obtain ⟨events, executed⟩ := Plan.execute_of job.settings job.path job.conduct? progress
  refine ⟨events, fun sink => ?_⟩
  obtain ⟨attempted, failure, after, attempts, ended, rfl⟩ := executed sink
  exact ⟨failure, after, job.entries_plan ▸ attempts, ended⟩

/-- A test does not depend on whether the lock of the sink is poisoned. -/
theorem execute_healed (job : Job) (shared : Shared) :
    (job.execute shared).failure = (job.execute shared.healed).failure ∧
      (job.execute shared).events = (job.execute shared.healed).events ∧
      (job.execute shared).shared.healed = (job.execute shared.healed).shared.healed := by
  have same : shared.healed = shared.healed.healed := rfl
  obtain ⟨ended, left, events⟩ := Task.finish_congr { remaining := job.plan.steps } same
  exact ⟨congrArg Task.failure ended, events, left⟩

end Job

/-- The progress that tests make one after the other, whatever the sink does. -/
theorem progress_executeAll (jobs : List Job) (shared : Shared) :
    (executeAll jobs shared).progress = jobs.foldl
      (fun progress job => progress.after job.announced job.verdict) shared.progress := by
  induction jobs generalizing shared with
  | nil => rfl
  | cons job rest ih =>
    obtain ⟨events, executed⟩ := job.execute_of shared.progress
    obtain ⟨failure, after, -, ended⟩ := executed shared.sink
    calc (executeAll (job :: rest) shared).progress
        = (executeAll rest (job.execute shared).shared).progress := rfl
      _ = _ := by rw [ih, ended]; rfl

/-- After tests that began while none was running, none is, and their verdicts are counted. -/
theorem executeAll_ends (jobs : List Job) {shared : Shared} (idle : shared.progress.running = []) :
    (executeAll jobs shared).progress.running = [] ∧
      (executeAll jobs shared).progress.tally =
        shared.progress.tally.addAll (jobs.map Job.verdict) := by
  rw [progress_executeAll]
  generalize shared.progress = progress at idle
  induction jobs generalizing progress with
  | nil => exact ⟨idle, rfl⟩
  | cons job rest ih => exact ih _ (Progress.running_after idle job.announced job.verdict)

/-- Whatever the sink does to tests executed one after the other: after each of them the progress
and its events are what they are on every other sink, none is running, and every test so far is
counted once, under the verdict that it had before anything was written. The test begins to write
where the ones before it have left the sink, attempts its entries in their order up to the first
that cannot be written, and ends with the error of that one. On a sink that works again it writes
them all. A test that ends with a panic has poisoned the lock of the sink, and no later test goes
another way because of that. -/
theorem executes_outlive_broken_sinks (earlier : List Job) (job : Job) (sink : Sink) :
    let before := executeAll earlier { sink }
    let execution := job.execute before
    let progress := execution.shared.progress
    (∀ other : Sink,
      let elsewhere := job.execute (executeAll earlier { sink := other })
      progress = elsewhere.shared.progress ∧ execution.events = elsewhere.events) ∧
    progress.running = [] ∧
    progress.total = earlier.length + 1 ∧
    progress.tally = .addAll .empty ((earlier ++ [job]).map Job.verdict) ∧
    before.sink.Attempts job.entries (job.attempted before) execution.failure
      execution.shared.sink ∧
    (before.sink.Working → execution.failure = none ∧
      execution.shared.sink.taken = before.sink.taken ++ job.entries.flatMap Entry.octets) ∧
    (execution.failure = some .panic → execution.shared.sink.poisoned = true) ∧
    ∀ later : Job,
      let next := later.execute execution.shared
      let healed := later.execute execution.shared.healed
      next.failure = healed.failure ∧ next.events = healed.events ∧
        next.shared.healed = healed.shared.healed := by
  intro before execution progress
  obtain ⟨events, executed⟩ := job.execute_of before.progress
  obtain ⟨failure, after, attempts, ended⟩ := executed before.sink
  have execution_eq : execution =
      ⟨job.plan, ⟨before.progress.after job.announced job.verdict, after⟩, events, failure⟩ := ended
  have idle : before.progress.running = [] := (executeAll_ends earlier rfl).1
  have counted : before.progress.tally = .addAll .empty (earlier.map Job.verdict) :=
    (executeAll_ends earlier rfl).2
  have progress_eq : progress = before.progress.after job.announced job.verdict := by
    simp only [progress, execution_eq]
  refine ⟨fun other => ?_, ?_, ?_, ?_, ?_, fun working => ?_, fun panics => ?_,
    fun later => later.execute_healed execution.shared⟩
  · have same : (executeAll earlier { sink := other }).progress = before.progress := by
      simp only [before, progress_executeAll]
    obtain ⟨failureThere, afterThere, -, endedThere⟩ :=
      executed (executeAll earlier { sink := other }).sink
    have elsewhere_eq : job.execute (executeAll earlier { sink := other }) = ⟨job.plan,
        ⟨before.progress.after job.announced job.verdict, afterThere⟩, events, failureThere⟩ := by
      rw [← endedThere, ← same]
    simp only [progress_eq, execution_eq, elsewhere_eq, and_self]
  · rw [progress_eq]
    exact Progress.running_after idle _ _
  · rw [progress_eq, Progress.total, Progress.tally_after, counted, Tally.total_add,
      Tally.total_addAll, List.length_map]
    exact congrArg (· + 1) (Nat.zero_add _)
  · rw [progress_eq, Progress.tally_after, counted, List.map_append, Tally.addAll_append]
    rfl
  · rw [execution_eq]
    exact attempts
  · rw [execution_eq]
    exact working.attempts attempts
  · rw [execution_eq] at panics ⊢
    exact attempts.poisoned panics

/-- A test with two subtests that pass. -/
def pairJob : Job where
  test.run _ :=
    { outcome := .ok (.record
        { result := some .pass, subtest := some (.ofList [("a", .pass), ("b", .pass)]) }) }
  surroundings := ⟨.zero, "main"⟩
  path := "pair"

/-- A sink that panics at the second entry, cannot be flushed after the third, and works from then
on. -/
def tornSink : Sink := { onWrite := [(1, .panic)], onFlush := [(1, .failed "no space left")] }

theorem executes_outlive_tornSink :
    let first := pairJob.execute { sink := tornSink }
    let second := pairJob.execute first.shared
    let third := pairJob.execute second.shared
    (pairJob.attempted { sink := tornSink }).map Entry.path = ["pair/a", "pair/b"] ∧
    first.failure = some .panic ∧ first.shared.sink.poisoned = true ∧
    (pairJob.attempted first.shared).map Entry.path = ["pair/a"] ∧
    second.failure = some (.write "pair/a" "no space left") ∧
    second.shared.sink.Working ∧ third.failure = none ∧ third.shared.progress.total = 3 ∧
    third.shared.progress.summary = "3 tests: 3 pass" := by
  intro first second third
  have working : second.shared.sink.Working := by
    have sink : second.shared.sink =
        { tornSink with
          writes := 3, flushes := 2, taken := second.shared.sink.taken, poisoned := true } := by
      decide +kernel
    rw [sink]
    exact ⟨by decide, by simp [tornSink], by simp [tornSink]⟩
  have panicked : first.failure = some .panic := by decide +kernel
  obtain ⟨-, -, -, -, -, -, poisons, -⟩ := executes_outlive_broken_sinks [] pairJob tornSink
  obtain ⟨-, -, total, -, -, recovered, -⟩ :=
    executes_outlive_broken_sinks [pairJob, pairJob] pairJob tornSink
  exact ⟨by decide +kernel, panicked, poisons panicked, by decide +kernel, by decide +kernel,
    working, (recovered working).1, total, by decide +kernel⟩

end Verdict
