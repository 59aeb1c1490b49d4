import Verdict.Proofs.Exec.Classification
import Verdict.Proofs.Journal.Writing
/-! What an executed test writes. The verdict of its run is in the record that it is concluded with;
a record with several subtests is written as one entry per subtest, each with the verdict of the
subtest alone. So a crash, or an error that the memory checker found, is in every entry exactly when
each subtest says so itself. -/
namespace Verdict

/-- A kernel log that can be read and leaves the verdict and the subtests of a record alone. -/
structure KernelLog.LeavesVerdicts (kernelLog : KernelLog) (record : Record) : Prop where
  refreshes : kernelLog.refresh = .ok ()
  annotates : ∃ annotated, kernelLog.annotate record = .ok annotated ∧
    annotated.result = record.result ∧ annotated.subtest = record.subtest

/-! ### Entries of a record -/

section
variable {record : Record} {path : String}

theorem mem_entries_of_several (several : 1 < record.subtests.length) {entry : Entry} :
    entry ∈ record.entries path ↔ ∃ subtest ∈ record.subtests,
      ⟨path ++ "/" ++ subtest.1, { record with result := some subtest.2 }⟩ = entry := by
  simp [Record.entries, Record.splits, several, Record.subtestRecords]

theorem entries_of_few (few : record.subtests.length ≤ 1) :
    record.entries path = [⟨path, record⟩] := by
  simp [Record.entries, Record.splits, Nat.not_lt.mpr few]

/-- What holds of the verdict of a record holds of all its entries exactly when it holds of every
subtest, or there are too few subtests for entries of their own. -/
theorem forall_entries_iff (Holds : Option Status → Prop) (own : Holds record.result) :
    (∀ entry ∈ record.entries path, Holds entry.record.result) ↔
      record.subtests.length ≤ 1 ∨ ∀ subtest ∈ record.subtests, Holds (some subtest.2) := by
  rcases Nat.lt_or_ge 1 record.subtests.length with several | few
  · rw [or_iff_right (Nat.not_le.mpr several)]
    constructor
    · intro all subtest member
      exact all _ ((mem_entries_of_several several).mpr ⟨subtest, member, rfl⟩)
    · intro all entry member
      obtain ⟨subtest, listed, rfl⟩ := (mem_entries_of_several several).mp member
      exact all subtest listed
  · simp [entries_of_few few, few, own]

theorem subtests_complete {loose : Bool} {elapsed : Binary64} :
    (record.complete loose elapsed).subtests = record.subtests := by
  unfold Record.complete
  split <;> rfl

/-- A record that a test has returned is concluded with its own verdict, or else as a failure. -/
theorem result_complete {elapsed : Binary64} :
    (record.complete false elapsed).result = some record.status := by
  simp [Record.complete, Record.status]

end

/-! ### Conducted tests -/

section
variable {test : ExecTest} {settings : Settings} {host : Host} {output : ProcessOutput}
  {kernelLog : KernelLog} {surroundings : Surroundings} {path : String}

/-- Unless it is a dry run, a test writes the entries of the record that it is concluded with. -/
theorem entries_of_execute {testCase : TestCase} {shared : Shared}
    (enabled : settings.execute = true) :
    (testCase.execute settings kernelLog surroundings path shared).plan.entries =
      (testCase.conduct settings kernelLog surroundings path).record.entries path := by
  simp only [TestCase.execute, Plan.execute, TestCase.plan, enabled, if_true]
  exact filterMap_entry?_write _

/-- A test that is only announced has nothing to write and is not conducted. -/
theorem TestCase.plan_of_dryRun (test : TestCase) {settings : Settings} (kernelLog : KernelLog)
    (surroundings : Surroundings) (path : String) (dry : settings.execute = false) :
    (test.plan settings kernelLog surroundings path).conduct = none ∧
      (test.plan settings kernelLog surroundings path).entries = [] := by
  simp only [TestCase.plan, dry]
  exact ⟨rfl, rfl⟩

/-- A test whose run comes to an output is concluded with the judged record, as the kernel log has
left it. -/
theorem conduct_of_accepts (runs : test.skipped = false) (nonempty : test.command ≠ [])
    (accepts : test.Accepts settings host output) (refreshes : kernelLog.refresh = .ok ())
    {annotated : Record}
    (annotates : kernelLog.annotate (test.judge settings output) = .ok annotated) :
    ((test.toTestCase host).conduct settings kernelLog surroundings path).record =
      annotated.complete false surroundings.elapsed := by
  have judged := ExecTest.run_of_accepts runs nonempty accepts
  have prepared : (test.toTestCase host).before = .ok () := rfl
  have returned : ((test.toTestCase host).run settings).outcome =
      .ok (.record (test.judge settings output)) := by
    simp only [ExecTest.toTestCase, judged]
    rfl
  simp only [TestCase.conduct, TestCase.course, refreshes, prepared, returned, TestOutput.toRecord,
    annotates]
  rfl

end

/-! ### Condemned runs -/

section
variable {test : ExecTest} {settings : Settings} {output : ProcessOutput}

/-- Judging leaves the subtests as the interpreter reported them. -/
theorem subtests_judge (runs : test.skipped = false) :
    (test.judge settings output).subtests = (test.seen output).record.subtests := by
  have same : (test.judge settings output).subtest = (test.seen output).record.subtest := by
    simp [ExecTest.judge, ExecTest.interpretation_of_runs runs, ExecTest.withReturnCode_subtest]
  simp [Record.subtests, same]

/-- With a working sink, all entries that the test writes arrive. If its process crashed, they all
say so exactly when the test reported at most one subtest or a crash for each of its subtests; and
if the memory checker returned an error, none of them is a pass exactly when the test reported at
most one subtest or a pass for none of them. In every other case an entry hides what the record
says. -/
theorem condemned_entries_iff (test : ExecTest) (settings : Settings) (host : Host)
    (output : ProcessOutput) (kernelLog : KernelLog) (surroundings : Surroundings) (path : String)
    (shared : Shared) (protocol : test.interpreter = Protocol.interpret)
    (runs : test.skipped = false) (nonempty : test.command ≠ [])
    (enabled : settings.execute = true) (accepts : test.Accepts settings host output)
    (leaves : kernelLog.LeavesVerdicts (test.judge settings output))
    (working : shared.sink.Working) :
    let execution := (test.toTestCase host).execute settings kernelLog surroundings path shared
    let reported := (Protocol.interpret (String.ofList (Utf8.decode output.stdout))
      output.returncode (.ofStatus .fail)).record.subtests
    execution.failure = none ∧
      execution.shared.sink.taken =
        shared.sink.taken ++ execution.plan.entries.flatMap Entry.octets ∧
      (settings.valgrind = false → Crashed output.returncode →
        ((∀ entry ∈ execution.plan.entries, entry.record.result = some .crash) ↔
          reported.length ≤ 1 ∨ ∀ subtest ∈ reported, subtest.2 = .crash)) ∧
      (settings.valgrind = true → output.returncode ≠ some 0 →
        ((∀ entry ∈ execution.plan.entries, entry.record.result ≠ some .pass) ↔
          reported.length ≤ 1 ∨ ∀ subtest ∈ reported, subtest.2 ≠ .pass)) := by
  intro execution reported
  obtain ⟨annotated, annotates, sameResult, sameSubtest⟩ := leaves.annotates
  let last := annotated.complete false surroundings.elapsed
  have entries : execution.plan.entries = last.entries path := by
    rw [entries_of_execute enabled]
    rw [conduct_of_accepts runs nonempty accepts leaves.refreshes annotates]
  have subtests : last.subtests = reported := by
    have kept : annotated.subtests = (test.judge settings output).subtests := by
      simp [Record.subtests, sameSubtest]
    rw [subtests_complete, kept, subtests_judge runs, ExecTest.seen, protocol]
  have classified : ExecTest.Classified test settings output (test.seen output)
      (test.judge settings output) := ExecTest.judge_classified runs
  have written := Plan.execute_working execution.plan working
  refine ⟨written.1, written.2, fun unchecked crashed => ?_, fun checked nonzero => ?_⟩
  · have own : last.result = some .crash := by
      have judged := sameResult.trans (classified.crashed unchecked crashed)
      rw [result_complete, Record.status, judged, Option.getD_some]
    rw [entries, ← subtests]
    simpa using forall_entries_iff (· = some .crash) own
  · -- A record without a verdict is concluded as a failure, so a pass was one before.
    have own : last.result ≠ some .pass := by
      intro pass
      rw [result_complete] at pass
      have judged : annotated.result = some .pass :=
        ExecTest.status_eq_pass_iff.mp (Option.some.inj pass)
      exact nonzero ((classified.checkedPass checked).mp (sameResult.symm.trans judged)).2
    rw [entries, ← subtests]
    simpa using forall_entries_iff (· ≠ some .pass) own

/-- What a process leaves that reports two passing subtests and returns a code. -/
def passingSubtests (code : ReturnCode) : ProcessOutput :=
  { stdout := "PIGLIT: subtest \x7b'a': 'pass', 'b': 'pass'\x7d\n".toUTF8.data.toList
    returncode := some code }

/-- A segmentation fault behind two passing subtests: not all entries say that the test crashed. -/
theorem condemned_entries_of_crash :
    Crashed (passingSubtests (-11)).returncode ∧
      ¬ ∀ entry ∈ (((ExecTest.make ["fbo"] ⟨""⟩).toTestCase fun _ _ =>
          .finished (passingSubtests (-11))).execute {} {} ⟨.zero, ""⟩ "spec/fbo" {}).plan.entries,
        entry.record.result = some .crash := by
  have crashed : Crashed (passingSubtests (-11)).returncode := ⟨-11, by decide, rfl⟩
  have exactly := condemned_entries_iff (ExecTest.make ["fbo"] ⟨""⟩) {}
    (fun _ _ => .finished (passingSubtests (-11))) (passingSubtests (-11)) {} ⟨.zero, ""⟩
    "spec/fbo" {} rfl (by decide) (by decide) rfl ⟨_, rfl, rfl⟩ ⟨rfl, _, rfl, rfl, rfl⟩
    ⟨by decide, by simp, by simp⟩
  refine ⟨crashed, fun all => ?_⟩
  have reported := (exactly.2.2.1 rfl crashed).mp all
  revert reported
  decide +kernel

/-- Neither a segmentation fault nor an error that the memory checker found is in the entries of a
test with two passing subtests: both times two passes are written. -/
theorem passing_subtests_hide_condemnation :
    (((ExecTest.make ["fbo"] ⟨""⟩).toTestCase fun _ _ => .finished (passingSubtests (-11))).execute
        {} {} ⟨.zero, ""⟩ "spec/fbo" {}).plan.entries.map
        (fun entry => (entry.path, entry.record.result)) =
      [("spec/fbo/a", some .pass), ("spec/fbo/b", some .pass)] ∧
    (((ExecTest.make ["fbo"] ⟨""⟩).toTestCase fun _ _ => .finished (passingSubtests 1)).execute
        { valgrind := true } {} ⟨.zero, ""⟩ "spec/fbo" {}).plan.entries.map
        (fun entry => (entry.path, entry.record.result)) =
      [("spec/fbo/a", some .pass), ("spec/fbo/b", some .pass)] := by
  decide +kernel

end

end Verdict
