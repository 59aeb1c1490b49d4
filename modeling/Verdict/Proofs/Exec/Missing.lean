import Verdict.Proofs.Exec.Retries
/-! Tests whose executable is missing. Such a run never ends in an error; an output made up for it
goes the way of any other, so its verdict is what the interpreter of the test reads from that output
and, under the memory checker, a skip unless it reads a pass. The result protocol reads a skip; an
interpreter that looks at the return code alone finds none and reads a failure. -/
namespace Verdict.ExecTest

/-- The last start of a run found no executable. -/
def EndsMissing (test : ExecTest) (settings : Settings) (host : Host) : Prop :=
  ∃ launch, (test.run settings host).attempts.getLast? = some ⟨launch, .notFound⟩

/-- What the interpreter of a test makes of the output made up for a missing executable. -/
def seenMissing (test : ExecTest) : Interpretation :=
  test.interpreter notFoundOutput none (.ofStatus .fail)

variable {test : ExecTest} {settings : Settings} {host : Host}

private theorem attempts_of_empty (empty : test.command = []) :
    (test.run settings host).attempts = [] := by
  unfold run
  rw [empty]

/-- A test that starts anything has a command and is not skipped. -/
theorem runs_of_attempts (started : (test.run settings host).attempts ≠ []) :
    test.skipped = false ∧ test.command ≠ [] := by
  refine ⟨?_, fun empty => started (attempts_of_empty empty)⟩
  rw [← Bool.not_eq_true]
  intro skipped
  obtain ⟨_, _, _, _, idle⟩ := @run_of_skipped test settings host skipped
  exact started idle

private theorem seen_synthetic_notFound :
    test.seen (.synthetic notFoundOutput) = test.seenMissing := by
  have text : String.ofList (Utf8.decode (ProcessOutput.synthetic notFoundOutput).stdout) =
      notFoundOutput := by decide +kernel
  rw [seen, text]
  rfl

/-- A run that ends at a missing executable is judged by the output made up for it. -/
private theorem run_of_missing (missing : test.EndsMissing settings host) :
    test.skipped = false ∧
      (test.run settings host).result = .ok (test.judge settings (.synthetic notFoundOutput)) := by
  obtain ⟨launch, ended⟩ := missing
  have some : (test.run settings host).attempts ≠ [] := by
    intro idle
    rw [idle] at ended
    cases ended
  obtain ⟨runs, nonempty⟩ := runs_of_attempts some
  obtain ⟨_, last, started⟩ := @exists_started test settings host runs nonempty
  rw [started.getLast?_attempts] at ended
  cases ended
  exact ⟨runs, started.result⟩

/-- Without a process nothing has crashed and nothing was returned, so only a pass says anything
about memory errors. -/
theorem Classified.skip_iff_of_silent {output : ProcessOutput} {seen : Interpretation}
    {record : Record} (classified : Classified test settings output seen record)
    (silent : output.returncode = none) (checked : settings.valgrind = true) :
    record.result = some .skip ↔ seen.record.result ≠ some .pass := by
  have survived : ¬ Crashed output.returncode := by
    rintro ⟨code, -, returned⟩
    rw [silent] at returned
    cases returned
  have failed : record.result = some .fail ↔ seen.record.result = some .pass := by
    rw [classified.checkedFail checked]
    exact and_iff_left ⟨by simp [silent], survived⟩
  constructor
  · intro skip pass
    rw [failed.mpr pass] at skip
    cases skip
  · intro other
    rcases classified.checkedSkip checked with pass | fail | skip
    · exact absurd ((classified.checkedPass checked).mp pass).1 other
    · exact absurd (failed.mp fail) other
    · exact skip

/-- A run that ends at a missing executable returns a record without a return code. Its verdict is
the interpreter's, and under the memory checker a skip exactly when the interpreter does not read a
pass. So a test of the result protocol is always skipped, while one that is judged by its return
code is skipped only under the memory checker and fails without it. -/
theorem run_missing_executable_iff (test : ExecTest) (settings : Settings) (host : Host)
    (missing : test.EndsMissing settings host) :
    ∃ record, (test.run settings host).result = .ok record ∧ record.returncode = none ∧
      (settings.valgrind = false → record.result = test.seenMissing.record.result) ∧
      (settings.valgrind = true →
        (record.result = some .skip ↔ test.seenMissing.record.result ≠ some .pass)) ∧
      (test.interpreter = Protocol.interpret → record.result = some .skip) ∧
      (test.interpreter = interpretReturnCode →
        (record.result = some .skip ↔ settings.valgrind = true) ∧
        (record.result = some .fail ↔ settings.valgrind = false)) := by
  let output := ProcessOutput.synthetic notFoundOutput
  obtain ⟨runs, returned⟩ := run_of_missing missing
  have classified : Classified test settings output test.seenMissing (test.judge settings output) :=
    seen_synthetic_notFound ▸ judge_classified runs
  have unchecked (off : settings.valgrind = false) :
      (test.judge settings output).result = test.seenMissing.record.result :=
    classified.survived off (by rintro ⟨code, -, ⟨⟩⟩)
  have checked (on : settings.valgrind = true) : (test.judge settings output).result = some .skip ↔
      test.seenMissing.record.result ≠ some .pass :=
    classified.skip_iff_of_silent rfl on
  refine ⟨test.judge settings output, returned, rfl, unchecked, checked, fun protocol => ?_,
    fun byCode => ?_⟩
  · have skip : test.seenMissing.record.result = some .skip := by
      rw [seenMissing, protocol]
      decide +kernel
    cases on : settings.valgrind with
    | false => rw [unchecked on, skip]
    | true => exact (checked on).mpr (by simp [skip])
  · have fail : test.seenMissing.record.result = some .fail := by
      rw [seenMissing, byCode]
      rfl
    cases on : settings.valgrind with
    | false =>
      have failed := (unchecked on).trans fail
      simp [failed]
    | true =>
      have skipped := (checked on).mpr (by simp [fail])
      simp [skipped]

/-- An executable that is gone when a spurious window resize would have it started again. -/
theorem run_missing_executable_after_resize :
    let test := { make ["fbo"] ⟨""⟩ with interpreter := interpretReturnCode }
    let host : Host := fun _ number => if number = 0 then .finished resizingOutput else .notFound
    test.EndsMissing { valgrind := true } host ∧
      ∃ record, (test.run { valgrind := true } host).result = .ok record ∧
        record.result = some .skip ∧ record.returncode = none := by
  intro test host
  have missing : test.EndsMissing { valgrind := true } host :=
    ⟨⟨"valgrind", ["--quiet", "--error-exitcode=1", "--tool=memcheck", "fbo"], .empty⟩,
      by decide +kernel⟩
  obtain ⟨record, returned, silent, -, -, -, byCode⟩ :=
    run_missing_executable_iff test { valgrind := true } host missing
  exact ⟨missing, record, returned, (byCode rfl).1.mpr rfl, silent⟩

/-- A missing executable is no skip where the return code alone decides: the test has failed. -/
theorem missing_executable_fails_by_return_code :
    let test := { make ["fbo"] ⟨""⟩ with interpreter := interpretReturnCode }
    let host : Host := fun _ _ => .notFound
    test.EndsMissing {} host ∧
      ∃ record, (test.run {} host).result = .ok record ∧ record.result = some .fail := by
  intro test host
  exact ⟨⟨⟨"fbo", [], .empty⟩, rfl⟩, test.judge {} (.synthetic notFoundOutput), rfl, rfl⟩

end Verdict.ExecTest
