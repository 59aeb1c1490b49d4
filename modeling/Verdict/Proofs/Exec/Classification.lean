import Verdict.Exec
/-! How a run of an executable is judged. The output that its starts come to is interpreted; then a
crash code overrides the verdict, other codes are noted, the memory checker has the last word on
the verdict, and the account of the run replaces whatever the interpreter wrote there. Each result
says what a field of the record depends on, for any interpreter. -/
namespace Verdict

/-- The process returned a code of the crash table. -/
def Crashed (code : Option ReturnCode) : Prop :=
  ∃ value ∈ ReturnCode.crashes, code = some value

namespace ExecTest

/-- What a test asks to start under these settings. -/
def launch? (test : ExecTest) (settings : Settings) : Option Launch :=
  match test.effectiveCommand settings with
  | [] => none
  | program :: arguments => some ⟨program, arguments, test.overrides⟩

/-- The starts of a test on a host come to this output: its own, after the last repetition, or the
one made up for a missing executable. -/
def Accepts (test : ExecTest) (settings : Settings) (host : Host) (output : ProcessOutput) : Prop :=
  ∃ launch ∈ test.launch? settings,
    (Trial.run launch (host launch) 0 (maxAttempts - 1)).accepted = .ok output

/-- What the interpreter of a test makes of an output; it starts from a failure. -/
def seen (test : ExecTest) (output : ProcessOutput) : Interpretation :=
  test.interpreter (String.ofList (Utf8.decode output.stdout)) output.returncode (.ofStatus .fail)

/-- What the record of a finished run says, given what the interpreter made of the output. -/
structure Classified (test : ExecTest) (settings : Settings) (output : ProcessOutput)
    (seen : Interpretation) (record : Record) : Prop where
  crashed (unchecked : settings.valgrind = false) (crashed : Crashed output.returncode) :
    record.result = some .crash
  survived (unchecked : settings.valgrind = false) (survived : ¬ Crashed output.returncode) :
    record.result = seen.record.result
  checkedPass (checked : settings.valgrind = true) : record.result = some .pass ↔
    seen.record.result = some .pass ∧ output.returncode = some 0
  checkedFail (checked : settings.valgrind = true) : record.result = some .fail ↔
    seen.record.result = some .pass ∧ output.returncode ≠ some 0 ∧ ¬ Crashed output.returncode
  checkedSkip (checked : settings.valgrind = true) :
    record.result = some .pass ∨ record.result = some .fail ∨ record.result = some .skip
  noted {code : ReturnCode} (returned : output.returncode = some code) (nonzero : code ≠ 0)
    (survived : ¬ Crashed output.returncode) :
    record.note = some ("Returncode was " ++ toString code)
  unnoted (silent : output.returncode = none ∨ output.returncode = some 0 ∨
    Crashed output.returncode) : record.note = seen.record.note
  info : record.info = some ("Returncode: " ++ (output.returncode.map toString).getD "None"
    ++ "\n\nErrors:\n" ++ String.ofList (Utf8.decode output.stderr)
    ++ "\n\nOutput:\n" ++ seen.output)
  returncode : record.returncode = output.returncode
  command : record.command = some (String.intercalate " " (test.effectiveCommand settings))

/-! ### What the return code adds -/

variable {record : Record} {code : Option ReturnCode}

theorem crashed_some_iff {value : ReturnCode} : Crashed (some value) ↔ value.isCrash = true := by
  simp [Crashed, ReturnCode.isCrash]

private theorem withReturnCode_crashed (crashed : Crashed code) :
    withReturnCode record code = { record with result := some .crash } := by
  obtain ⟨value, listed, rfl⟩ := crashed
  have isCrash := crashed_some_iff.mp ⟨value, listed, rfl⟩
  simp [withReturnCode, isCrash]

private theorem withReturnCode_silent (silent : code = none ∨ code = some 0) :
    withReturnCode record code = record := by
  rcases silent with rfl | rfl <;> rfl

private theorem withReturnCode_noted {value : ReturnCode} (nonzero : value ≠ 0)
    (survived : ¬ Crashed (some value)) : withReturnCode record (some value) =
      { record with note := some ("Returncode was " ++ toString value) } := by
  rw [crashed_some_iff] at survived
  simp [withReturnCode, survived, nonzero]

private theorem withReturnCode_result (survived : ¬ Crashed code) :
    (withReturnCode record code).result = record.result := by
  cases code with
  | none => rfl
  | some value =>
    by_cases zero : value = 0
    · rw [zero, withReturnCode_silent (.inr rfl)]
    · rw [withReturnCode_noted zero survived]

theorem withReturnCode_subtest :
    (withReturnCode record code).subtest = record.subtest := by
  cases code with
  | none => rfl
  | some value =>
    simp only [withReturnCode]
    split
    · rfl
    · split <;> rfl

/-! ### The last word of the memory checker -/

private theorem underMemoryCheck_eq_pass_iff {status : Status} :
    status.underMemoryCheck code = .pass ↔ status = .pass ∧ code = some 0 := by
  fun_cases Status.underMemoryCheck status code <;> simp_all

private theorem underMemoryCheck_eq_fail_iff {status : Status} :
    status.underMemoryCheck code = .fail ↔ status = .pass ∧ code ≠ some 0 := by
  fun_cases Status.underMemoryCheck status code <;> simp_all

private theorem underMemoryCheck_cases (status : Status) (code : Option ReturnCode) :
    status.underMemoryCheck code = .pass ∨ status.underMemoryCheck code = .fail ∨
      status.underMemoryCheck code = .skip := by
  fun_cases Status.underMemoryCheck status code <;> simp

/-- A record without a verdict counts as a failure, so only a verdict of its own makes it a pass. -/
theorem status_eq_pass_iff : record.status = .pass ↔ record.result = some .pass := by
  unfold Record.status
  cases record.result <;> simp

/-! ### Runs -/

variable {test : ExecTest} {settings : Settings} {host : Host} {output : ProcessOutput}

theorem effectiveCommand_ne_nil (nonempty : test.command ≠ []) :
    test.effectiveCommand settings ≠ [] := by
  unfold effectiveCommand
  split
  · exact List.append_ne_nil_of_right_ne_nil _ nonempty
  · exact nonempty

theorem mem_launch?_iff {launch : Launch} : launch ∈ test.launch? settings ↔
    launch.argv = test.effectiveCommand settings ∧ launch.overrides = test.overrides := by
  obtain ⟨program, arguments, overrides⟩ := launch
  unfold launch?
  cases test.effectiveCommand settings <;> simp [Launch.argv, and_assoc, eq_comm]

theorem exists_launch (nonempty : test.command ≠ []) : ∃ launch, launch ∈ test.launch? settings := by
  obtain ⟨program, arguments, effective⟩ :=
    List.exists_cons_of_ne_nil (@effectiveCommand_ne_nil test settings nonempty)
  exact ⟨⟨program, arguments, test.overrides⟩, mem_launch?_iff.mpr ⟨effective.symm, rfl⟩⟩

/-- A test that is run starts what it asks for, and what its starts come to decides what it
returns. -/
theorem run_of_launch (host : Host) (runs : test.skipped = false) (nonempty : test.command ≠ [])
    {launch : Launch} (asked : launch ∈ test.launch? settings) :
    let trial := Trial.run launch (host launch) 0 (maxAttempts - 1)
    (test.run settings host).attempts = trial.outcomes.map (⟨launch, ·⟩) ∧
      (test.run settings host).result = trial.accepted.map (test.judge settings) := by
  obtain ⟨program, arguments, overrides⟩ := launch
  obtain ⟨effective, rfl⟩ := mem_launch?_iff.mp asked
  rw [Launch.argv] at effective
  obtain ⟨first, others, command⟩ := List.exists_cons_of_ne_nil nonempty
  simp only [run, command, ← effective, runs, Bool.false_eq_true, if_false]
  cases (Trial.run ⟨program, arguments, test.overrides⟩
    (host ⟨program, arguments, test.overrides⟩) 0 (maxAttempts - 1)).accepted <;>
  exact ⟨rfl, rfl⟩

theorem run_of_accepts (runs : test.skipped = false) (nonempty : test.command ≠ [])
    (accepts : test.Accepts settings host output) :
    (test.run settings host).result = .ok (test.judge settings output) := by
  obtain ⟨launch, asked, accepted⟩ := accepts
  rw [(run_of_launch host runs nonempty asked).2, accepted]
  rfl

/-- A test that its platform skips starts nothing; an empty command is skipped before that. -/
theorem run_of_skipped (skipped : test.skipped = true) :
    ∃ record, (test.run settings host).result = .ok record ∧ record.result = some .skip ∧
      record.returncode = none ∧ (test.run settings host).attempts = [] := by
  unfold run
  split
  · exact ⟨_, rfl, rfl, rfl, rfl⟩
  · exact ⟨_, rfl, rfl, rfl, rfl⟩
  · refine ⟨test.judge settings (.synthetic skipOutput), by simp [skipped], ?_, rfl,
      by simp [skipped]⟩
    simp [judge, interpretation, skipped, ProcessOutput.synthetic, withReturnCode, Record.ofStatus,
      Record.status, Status.underMemoryCheck]

theorem interpretation_of_runs (runs : test.skipped = false) :
    test.interpretation output = test.seen output := by
  simp [interpretation, seen, runs]

private theorem judge_result_unchecked (runs : test.skipped = false)
    (unchecked : settings.valgrind = false) : (test.judge settings output).result =
      (withReturnCode (test.seen output).record output.returncode).result := by
  simp [judge, interpretation_of_runs runs, unchecked]

/-- Under the memory checker the crash override comes first, so a crash is no pass and the test is
skipped, whatever the interpreter said. -/
theorem judge_result_checked (runs : test.skipped = false) (checked : settings.valgrind = true) :
    (test.judge settings output).result =
      some ((withReturnCode (test.seen output).record output.returncode).status.underMemoryCheck
        output.returncode) := by
  simp [judge, interpretation_of_runs runs, checked]

/-- The pass that the memory checker judges is the interpreter's, unless the process crashed. -/
theorem withReturnCode_status_pass_iff :
    (withReturnCode record code).status = .pass ↔ record.result = some .pass ∧ ¬ Crashed code := by
  rw [status_eq_pass_iff]
  by_cases crashed : Crashed code
  · simp [withReturnCode_crashed crashed, crashed]
  · simp [withReturnCode_result crashed, crashed]

private theorem judge_note (runs : test.skipped = false) : (test.judge settings output).note =
    (withReturnCode (test.seen output).record output.returncode).note := by
  simp [judge, interpretation_of_runs runs]

private theorem not_crashed_zero : ¬ Crashed (some 0) := by
  rw [crashed_some_iff]
  decide

theorem judge_classified (runs : test.skipped = false) :
    Classified test settings output (test.seen output) (test.judge settings output) where
  crashed unchecked crashed := by
    rw [judge_result_unchecked runs unchecked, withReturnCode_crashed crashed]
  survived unchecked survived := by
    rw [judge_result_unchecked runs unchecked, withReturnCode_result survived]
  checkedPass checked := by
    rw [judge_result_checked runs checked, Option.some.injEq, underMemoryCheck_eq_pass_iff,
      withReturnCode_status_pass_iff, and_assoc]
    -- Zero is no crash code, so a pass needs no word about crashes.
    refine and_congr_right fun _ => and_iff_right_of_imp ?_
    intro zero
    rw [zero]
    exact not_crashed_zero
  checkedFail checked := by
    rw [judge_result_checked runs checked, Option.some.injEq, underMemoryCheck_eq_fail_iff,
      withReturnCode_status_pass_iff, and_assoc]
    exact and_congr_right fun _ => and_comm
  checkedSkip checked := by
    rw [judge_result_checked runs checked]
    simpa using underMemoryCheck_cases _ output.returncode
  noted returned nonzero survived := by
    rw [returned] at survived
    rw [judge_note runs, returned, withReturnCode_noted nonzero survived]
  unnoted silent := by
    rw [judge_note runs]
    rcases silent with none | zero | crashed
    · rw [withReturnCode_silent (.inl none)]
    · rw [withReturnCode_silent (.inr zero)]
    · rw [withReturnCode_crashed crashed]
  info := by simp [judge, infoText, interpretation_of_runs runs]
  returncode := rfl
  command := rfl

/-- Every run that comes to an output returns a record that is classified by the settings, the
return code and the interpreter alone; a test that its platform skips returns a skip and starts
nothing. -/
theorem run_classifies_outcome (test : ExecTest) (settings : Settings) (host : Host) :
    (test.skipped = false → test.command ≠ [] →
      ∀ output, test.Accepts settings host output →
        ∃ record, (test.run settings host).result = .ok record ∧
          Classified test settings output (test.seen output) record) ∧
    (test.skipped = true →
      ∃ record, (test.run settings host).result = .ok record ∧ record.result = some .skip ∧
        record.returncode = none ∧ (test.run settings host).attempts = []) := by
  constructor
  · intro runs nonempty output accepts
    exact ⟨_, run_of_accepts runs nonempty accepts, judge_classified runs⟩
  · exact run_of_skipped

/-- A passing test on which the memory checker reports errors. -/
theorem run_classifies_checked_failure :
    ∃ record, ((make ["fbo"] ⟨""⟩).run { valgrind := true } fun _ _ => .finished
        { stdout := "PIGLIT: \x7b'result': 'pass'\x7d\n".toUTF8.data.toList
          returncode := some 1 }).result = .ok record ∧
      record.result = some .fail ∧ record.note = some "Returncode was 1" := by
  let output : ProcessOutput :=
    { stdout := "PIGLIT: \x7b'result': 'pass'\x7d\n".toUTF8.data.toList, returncode := some 1 }
  obtain ⟨record, returned, classified⟩ :=
    (run_classifies_outcome (make ["fbo"] ⟨""⟩) { valgrind := true }
      fun _ _ => .finished output).1 (by decide) (by decide) output ⟨_, rfl, rfl⟩
  have survived : ¬ Crashed output.returncode := by
    rw [crashed_some_iff]
    decide
  refine ⟨record, returned, ?_, classified.noted rfl (by decide) survived⟩
  refine (classified.checkedFail rfl).mpr ⟨?_, by decide, survived⟩
  decide +kernel

end ExecTest

end Verdict
