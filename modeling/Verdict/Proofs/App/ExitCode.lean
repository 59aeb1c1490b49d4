import Verdict.App
import Verdict.Proofs.Execution.Entries
import Verdict.Proofs.Json.Lines
/-! How the program ends. On a standard output that works its exit code is settled before a test is
run: by the settings first, then by the text of the test command. Whatever becomes of the test
itself, from an executable that is not there to a crash, ends in a record that is written. -/
namespace Verdict

/-! ### Before a test is run -/

namespace CommandLine

variable {line : CommandLine} {invocation : Invocation}

/-- The test command is given as a text that cannot be split into words. -/
def Unsplittable (line : CommandLine) : Prop :=
  ∃ text, line.command = .line text ∧ Shell.splitWords text = none

private theorem argv_of_unsplittable (unsplittable : line.Unsplittable) :
    ∃ error, line.argv = .error error := by
  obtain ⟨text, command, unclosed⟩ := unsplittable
  exact ⟨⟨text⟩, by simp only [argv, command, splitCommand, unclosed]⟩

private theorem argv_of_splittable (splittable : ¬ line.Unsplittable) :
    ∃ words, line.argv = .ok words := by
  cases command : line.command with
  | words program arguments => exact ⟨program :: arguments, by rw [argv, command]⟩
  | line text =>
    cases split : Shell.splitWords text with
    | none => exact absurd ⟨text, command, split⟩ splittable
    | some words => exact ⟨words, by simp only [argv, command, splitCommand, split]⟩

private theorem prepare_of_unloadable {error : SettingsError}
    (unloadable :
      Settings.load invocation.files line.config invocation.environment = .error error) :
    line.prepare invocation = .error (.settings error) := by
  rw [prepare, unloadable]
  rfl

section
variable {loaded : Settings}
  (loads : Settings.load invocation.files line.config invocation.environment = .ok loaded)
include loads

private theorem prepare_of_loaded : line.prepare invocation =
    ((line.test (line.adjust loaded)).mapError AppError.command).map (line.adjust loaded, ·) := by
  rw [prepare, loads]
  change (do
    return (line.adjust loaded, ← (line.test (line.adjust loaded)).mapError AppError.command)) = _
  cases line.test (line.adjust loaded) <;> rfl

theorem prepare_of_unsplittable (unsplittable : line.Unsplittable) :
    ∃ error, line.prepare invocation = .error (.command error) := by
  obtain ⟨error, argv⟩ := argv_of_unsplittable unsplittable
  exact ⟨error, by rw [prepare_of_loaded loads, test, argv]; rfl⟩

theorem prepare_of_splittable (splittable : ¬ line.Unsplittable) :
    ∃ test, line.prepare invocation = .ok (line.adjust loaded, test) := by
  obtain ⟨words, argv⟩ := argv_of_splittable splittable
  exact ⟨_, by rw [prepare_of_loaded loads, test, argv]; rfl⟩

end

end CommandLine

/-! ### The run of the test -/

/-- A record has an entry of its own, or one for each of several subtests. -/
theorem Record.entries_ne_nil (record : Record) (path : String) : record.entries path ≠ [] := by
  rcases Nat.lt_or_ge 1 record.subtests.length with several | few
  · obtain ⟨subtest, listed⟩ := List.exists_mem_of_length_pos (Nat.zero_lt_of_lt several)
    exact List.ne_nil_of_mem ((mem_entries_of_several several).mpr ⟨subtest, listed, rfl⟩)
  · simp [entries_of_few few]

/-- The run has started no process and written nothing. -/
structure AppRun.Idle (run : AppRun) : Prop where
  attempts : run.attempts = []
  written : run.written = []

namespace CommandLine

variable {line : CommandLine} {invocation : Invocation} {sink : Sink}

private theorem run_of_unprepared {error : AppError}
    (unprepared : line.prepare invocation = .error error) :
    (line.run invocation sink).failure = some error ∧ (line.run invocation sink).Idle := by
  rw [run, unprepared]
  exact ⟨rfl, rfl, rfl⟩

/-- On a sink that works a prepared test is executed to its end, and what it has to write is
written. -/
theorem run_of_prepared (working : sink.Working) {settings : Settings} {test : ExecTest}
    (prepared : line.prepare invocation = .ok (settings, test)) :
    let plan := (test.toTestCase invocation.host).plan settings {} invocation.surroundings line.name
    (line.run invocation sink).failure = none ∧
    (line.run invocation sink).attempts = plan.conduct.elim [] Conduct.attempts ∧
    (line.run invocation sink).written = plan.entries.flatMap Entry.octets := by
  intro plan
  obtain ⟨unfailing, taken⟩ :=
    @Plan.execute_working plan { sink } working
  simp only [run, prepared]
  simp only [plan] at unfailing taken
  simp only [unfailing, taken, AppRun.concluding, List.drop_left, plan, and_self]

/-- The exit code says how far the command line could be prepared, and nothing else. -/
theorem exitCode_run (working : sink.Working) :
    (line.run invocation sink).exitCode =
      match line.prepare invocation with
      | .error error => error.exitCode
      | .ok _ => .ok := by
  cases prepared : line.prepare invocation with
  | error error => rw [AppRun.exitCode, (run_of_unprepared prepared).1, Option.elim_some]
  | ok made => rw [AppRun.exitCode, (run_of_prepared working prepared).1, Option.elim_none]

/-- On a sink that works the exit code does not depend on the executables that the test meets: it
is 95 if the settings cannot be loaded, else 96 if the test command cannot be split, and 0 in every
other case, however the test fares. No process is started and nothing written unless it is 0 and
the test is to be executed; then at least one entry is written. -/
theorem exitCode_ignores_test (line : CommandLine) (invocation : Invocation) (sink : Sink)
    (working : sink.Working) :
    let run := line.run invocation sink
    let loading := Settings.load invocation.files line.config invocation.environment
    (∀ (host : Host) (surroundings : Surroundings) (other : Sink), other.Working →
      (line.run { invocation with host, surroundings } other).exitCode = run.exitCode) ∧
    (∀ error, loading = .error error → run.exitCode.toNat = 95 ∧ run.Idle) ∧
    (∀ loaded, loading = .ok loaded → line.Unsplittable → run.exitCode.toNat = 96 ∧ run.Idle) ∧
    (∀ loaded, loading = .ok loaded → ¬ line.Unsplittable → run.exitCode.toNat = 0 ∧
      ((line.adjust loaded).execute = false → run.Idle) ∧
      ((line.adjust loaded).execute = true → ∃ entries, entries ≠ [] ∧
        run.written = entries.flatMap Entry.octets ∧
        pieces Utf8.lineFeed run.written = entries.map Entry.line ++ [[]])) := by
  intro run loading
  refine ⟨fun host surroundings other workingToo => ?_, fun error unloadable => ?_,
    fun loaded loads unsplittable => ?_, fun loaded loads splittable => ?_⟩
  · -- The preparation reads neither what the host does nor the surroundings.
    rw [exitCode_run working, exitCode_run workingToo]
    rfl
  · have unprepared := prepare_of_unloadable unloadable
    exact ⟨by rw [exitCode_run working, unprepared]; rfl, (run_of_unprepared unprepared).2⟩
  · obtain ⟨error, unprepared⟩ := prepare_of_unsplittable loads unsplittable
    exact ⟨by rw [exitCode_run working, unprepared]; rfl, (run_of_unprepared unprepared).2⟩
  · obtain ⟨test, prepared⟩ := prepare_of_splittable loads splittable
    obtain ⟨-, attempts, written⟩ := run_of_prepared working prepared
    refine ⟨by rw [exitCode_run working, prepared]; rfl, fun dry => ?_, fun enabled => ?_⟩
    · obtain ⟨unconducted, silent⟩ := (test.toTestCase invocation.host).plan_of_dryRun {}
        invocation.surroundings line.name dry
      rw [unconducted] at attempts
      rw [silent] at written
      exact ⟨attempts, written⟩
    · refine ⟨_, ?_, written, by rw [written]; exact pieces_flatMap_octets _⟩
      have entries := @entries_of_execute _ {} invocation.surroundings line.name
        (test.toTestCase invocation.host) {} enabled
      exact fun none => Record.entries_ne_nil _ _ (entries.symm.trans none)

def fboLine : CommandLine := { name := "spec/fbo", command := .words "fbo" ["-auto"] }

/-- What the command line meets where its executable is not there. -/
def fboAbsent : Invocation := { arguments := [], surroundings := ⟨.zero, "main"⟩ }

/-- The same, but the executable is there and crashes. -/
def fboCrashing : Invocation :=
  { fboAbsent with host := (Program.runs { returncode := some (-11) } []).host }

theorem exitCode_ignores_crash :
    (fboLine.run fboAbsent {}).attempts.map Attempt.outcome = [.notFound] ∧
    (fboLine.run fboCrashing {}).attempts.map Attempt.outcome =
      [.finished { returncode := some (-11) }] ∧
    (fboLine.run fboCrashing {}).exitCode = (fboLine.run fboAbsent {}).exitCode ∧
    (fboLine.run fboAbsent {}).exitCode.toNat = 0 ∧
    ∃ entries, entries ≠ [] ∧
      (fboLine.run fboAbsent {}).written = entries.flatMap Entry.octets := by
  have working : Sink.Working {} := ⟨by decide, by simp, by simp⟩
  have loads : Settings.load fboAbsent.files fboLine.config fboAbsent.environment = .ok {} := rfl
  have splittable : ¬ fboLine.Unsplittable := by simp [Unsplittable, fboLine]
  obtain ⟨same, -, -, settled⟩ := exitCode_ignores_test fboLine fboAbsent {} working
  obtain ⟨zero, -, writes⟩ := settled {} loads splittable
  obtain ⟨entries, some, written, -⟩ := writes rfl
  exact ⟨by decide +kernel, by decide +kernel, same fboCrashing.host _ {} working, zero, entries,
    some, written⟩

end CommandLine

end Verdict
