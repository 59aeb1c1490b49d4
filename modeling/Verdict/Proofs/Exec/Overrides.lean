import Verdict.Proofs.Exec.Missing
import Verdict.Proofs.Exec.Ownership
import Verdict.Proofs.Process.Environment
/-! What becomes of the overrides of a test. Every start of a test, however often it is repeated,
hands its process the last value of each name, and the record shows the names where they first came
with these values. Two neighbours with different names may change places: no process can tell, and
of the record only the order in the environment is touched. -/
namespace Verdict

/-- What a process is handed at a start, and what came of it. -/
def Attempt.view (inherited : Environment) (attempt : Attempt) :
    List String × Environment × Outcome :=
  (attempt.launch.argv, attempt.launch.environment inherited, attempt.outcome)

namespace ExecTest

/-- The test after overrides were set, one after the other. -/
def overriding (test : ExecTest) (pairs : List (String × String)) : ExecTest :=
  pairs.foldl (fun test pair => test.withOverride pair.1 pair.2) test

theorem overriding_eq (test : ExecTest) (pairs : List (String × String)) :
    test.overriding pairs = test.withOverrides pairs := by
  induction pairs generalizing test with
  | nil => rfl
  | cons pair pairs ih => exact ih (test.withOverride pair.1 pair.2)

variable {plain test : ExecTest} {pairs : List (String × String)} {settings : Settings}
  {host : Host}

theorem overrides_overriding (bare : plain.overrides = .empty) (pairs : List (String × String)) :
    (plain.overriding pairs).overrides = .ofList pairs := by
  rw [overriding_eq, withOverrides, bare]
  rfl

/-! ### What processes are handed -/

theorem launch_of_attempt {attempt : Attempt}
    (started : attempt ∈ (test.run settings host).attempts) :
    attempt.launch ∈ test.launch? settings := by
  obtain ⟨runs, nonempty⟩ := runs_of_attempts (List.ne_nil_of_mem started)
  obtain ⟨launch, asked⟩ := @exists_launch test settings nonempty
  rw [(run_of_launch host runs nonempty asked).1] at started
  obtain ⟨outcome, -, rfl⟩ := List.mem_map.mp started
  exact asked

/-! ### What records show -/

/-- The text in which a record shows pairs. -/
def shownText (pairs : List (String × String)) : String :=
  String.join (pairs.map fun (name, value) => name ++ "=\"" ++ value ++ "\" ")

/-- The record shows each name of the pairs once, where it first came, with its last value. -/
def ShowsLast (record : Record) (pairs : List (String × String)) : Prop :=
  ∃ entries, entries.map Prod.fst = (pairs.map Prod.fst).eraseDups ∧
    (∀ entry ∈ entries, lastValue? pairs entry.1 = some entry.2) ∧
    record.environment = some (shownText entries)

private theorem showsLast_judge {output : ProcessOutput}
    (overrides : test.overrides = .ofList pairs)
    (nonempty : pairs ≠ []) : ShowsLast (test.judge settings output) pairs := by
  refine ⟨(OrderedMap.ofList pairs).entries, OrderedMap.names_ofList pairs,
    fun entry member => ?_, ?_⟩
  · rw [← OrderedMap.get?_ofList]
    exact (mem_iff_lookup (OrderedMap.ofList pairs).distinct).mp member
  · rw [judge_environment, overrides, OrderedMap.isEmpty_ofList nonempty]
    rfl

theorem showsLast_of_run (overrides : test.overrides = .ofList pairs) (nonempty : pairs ≠ [])
    {record : Record} (returned : (test.run settings host).result = .ok record)
    (command : test.command ≠ []) : ShowsLast record pairs := by
  rcases run_eq_ok_cases returned with ⟨empty, -⟩ | ⟨-, -, rfl⟩ | ⟨-, -, output, -, rfl⟩
  · exact absurd empty command
  · exact showsLast_judge overrides nonempty
  · exact showsLast_judge overrides nonempty

/-! ### Overrides in another order -/

/-- The environments that two records show are equal, or two neighbours have changed places. -/
def Exchanged (environment other : Option String) : Prop :=
  other = environment ∨ ∃ earlier left right later,
    environment = some (shownText (earlier ++ left :: right :: later)) ∧
      other = some (shownText (earlier ++ right :: left :: later))

/-- Two runs that no process can tell apart, and that return the same but for the order in the
environment of a record. -/
structure Reordered (inherited : Environment) (run other : ExecRun) : Prop where
  starts : other.attempts.map (Attempt.view inherited) = run.attempts.map (Attempt.view inherited)
  error (error : RunError) (failed : run.result = .error error) : other.result = .error error
  record (record : Record) (returned : run.result = .ok record) :
    ∃ environment, Exchanged record.environment environment ∧
      other.result = .ok { record with environment }

private theorem trial_congr {launch other : Launch} (sameArgv : other.argv = launch.argv)
    (outcome : Nat → Outcome) (earlier further : Nat) :
    Trial.run other outcome earlier further = Trial.run launch outcome earlier further := by
  obtain ⟨program, arguments, overrides⟩ := launch
  obtain ⟨otherProgram, otherArguments, otherOverrides⟩ := other
  obtain ⟨rfl, rfl⟩ := List.cons.inj sameArgv
  have last (earlier : Nat) (outcome : Outcome) :
      Trial.last ⟨otherProgram, otherArguments, otherOverrides⟩ earlier outcome =
        Trial.last ⟨otherProgram, otherArguments, overrides⟩ earlier outcome := by
    cases outcome <;> rfl
  induction further generalizing earlier with
  | zero => exact last earlier (outcome earlier)
  | succ further ih => simp only [Trial.run, ih, last]

/-- Two tests that run the same and are judged alike; their overrides may differ. -/
structure SameBarOverrides (test other : ExecTest) : Prop where
  command : other.command = test.command
  skipped : other.skipped = test.skipped
  interpreter : other.interpreter = test.interpreter

private theorem SameBarOverrides.effectiveCommand {other : ExecTest}
    (same : SameBarOverrides test other) :
    other.effectiveCommand settings = test.effectiveCommand settings := by
  unfold ExecTest.effectiveCommand
  rw [same.command]

/-- With the same values of overrides, launches of both hand the same to their processes. -/
theorem SameBarOverrides.handed {other : ExecTest} (same : SameBarOverrides test other)
    (values : ∀ name, other.overrides.get? name = test.overrides.get? name)
    {launch otherLaunch : Launch} (asked : launch ∈ test.launch? settings)
    (askedToo : otherLaunch ∈ other.launch? settings) (inherited : Environment) :
    otherLaunch.argv = launch.argv ∧
      otherLaunch.environment inherited = launch.environment inherited := by
  obtain ⟨argv, overrides⟩ := mem_launch?_iff.mp asked
  obtain ⟨otherArgv, otherOverrides⟩ := mem_launch?_iff.mp askedToo
  constructor
  · rw [argv, otherArgv, same.effectiveCommand]
  · refine Launch.environment_congr (fun name => ?_) inherited
    rw [overrides, otherOverrides, values]

/-- Other overrides change nothing of a judged record but the environment. -/
theorem SameBarOverrides.judge {other : ExecTest} (same : SameBarOverrides test other)
    (given : other.overrides.isEmpty = false) (output : ProcessOutput) :
    other.judge settings output =
      { test.judge settings output with
        environment := some (environmentText other.overrides) } := by
  have interpreted : other.interpretation output = test.interpretation output := by
    unfold interpretation
    rw [same.skipped, same.interpreter]
  simp only [ExecTest.judge, given, interpreted, same.effectiveCommand]
  rfl

theorem run_of_empty (empty : test.command = []) :
    test.run settings host = { result := .ok (.ofStatus .skip) } := by
  unfold run
  rw [empty]

private theorem result_of_skipped (skipped : test.skipped = true) (nonempty : test.command ≠ []) :
    (test.run settings host).result = .ok (test.judge settings (.synthetic skipOutput)) := by
  obtain ⟨record, returned, -⟩ := @run_of_skipped test settings host skipped
  rcases run_eq_ok_cases returned with ⟨empty, -⟩ | ⟨-, -, rfl⟩ | ⟨-, runs, -⟩
  · exact absurd empty nonempty
  · exact returned
  · rw [skipped] at runs
    cases runs

/-- On a host that regards nothing but what is handed to processes, overrides with the same values
come to the same starts and to the same output. -/
theorem SameBarOverrides.run {other : ExecTest} (same : SameBarOverrides test other)
    {inherited : Environment} (regards : host.Regards inherited)
    (values : ∀ name, other.overrides.get? name = test.overrides.get? name)
    (nonempty : test.command ≠ []) :
    (other.run settings host).attempts.map (Attempt.view inherited) =
        (test.run settings host).attempts.map (Attempt.view inherited) ∧
      ∃ accepted : Except RunError ProcessOutput,
        (test.run settings host).result = accepted.map (test.judge settings) ∧
        (other.run settings host).result = accepted.map (other.judge settings) := by
  have nonemptyToo : other.command ≠ [] := same.command ▸ nonempty
  cases skips : test.skipped with
  | true =>
    have skipsToo : other.skipped = true := same.skipped.trans skips
    obtain ⟨_, _, _, _, idle⟩ := @run_of_skipped test settings host skips
    obtain ⟨_, _, _, _, idleToo⟩ := @run_of_skipped other settings host skipsToo
    exact ⟨by rw [idle, idleToo], .ok (.synthetic skipOutput), result_of_skipped skips nonempty,
      result_of_skipped skipsToo nonemptyToo⟩
  | false =>
    have runsToo : other.skipped = false := same.skipped.trans skips
    obtain ⟨launch, asked⟩ := @exists_launch test settings nonempty
    obtain ⟨otherLaunch, askedToo⟩ := @exists_launch other settings nonemptyToo
    obtain ⟨sameArgv, handed⟩ := same.handed values asked askedToo inherited
    obtain ⟨attempts, result⟩ := run_of_launch host skips nonempty asked
    obtain ⟨otherAttempts, otherResult⟩ := run_of_launch host runsToo nonemptyToo askedToo
    rw [regards launch otherLaunch sameArgv handed, trial_congr sameArgv]
      at otherAttempts otherResult
    refine ⟨?_, _, result, otherResult⟩
    rw [attempts, otherAttempts, List.map_map, List.map_map]
    refine List.map_congr_left fun outcome _ => ?_
    simp only [Function.comp_apply, Attempt.view, sameArgv, handed]

/-- The two tests return the same, the environment of a record aside. -/
theorem SameBarOverrides.reordered {other : ExecTest} (same : SameBarOverrides test other)
    {inherited : Environment} (regards : host.Regards inherited)
    (values : ∀ name, other.overrides.get? name = test.overrides.get? name)
    (given : test.overrides.isEmpty = false) (givenToo : other.overrides.isEmpty = false)
    (exchanged : Exchanged (some (environmentText test.overrides))
      (some (environmentText other.overrides))) :
    Reordered inherited (test.run settings host) (other.run settings host) := by
  by_cases empty : test.command = []
  · rw [run_of_empty empty, run_of_empty (same.command.trans empty)]
    refine ⟨rfl, nofun, fun record returned => ?_⟩
    cases returned
    exact ⟨none, .inl rfl, rfl⟩
  · obtain ⟨starts, accepted, result, otherResult⟩ :=
      @SameBarOverrides.run test settings host other same inherited regards values empty
    cases accepted with
    | error reason =>
      refine ⟨starts, fun error failed => ?_, fun record returned => ?_⟩
      · exact otherResult.trans (result.symm.trans failed)
      · cases result.symm.trans returned
    | ok output =>
      refine ⟨starts, fun error failed => ?_, fun record returned => ?_⟩
      · cases result.symm.trans failed
      · cases result.symm.trans returned
        refine ⟨some (environmentText other.overrides), ?_, ?_⟩
        · rw [judge_environment, given]
          exact exchanged
        · rw [otherResult, ← same.judge givenToo]
          rfl

variable {before after : List (String × String)} {first second : String × String}

theorem sameBarOverrides_overriding (plain : ExecTest) (pairs others : List (String × String)) :
    SameBarOverrides (plain.overriding pairs) (plain.overriding others) := by
  rw [overriding_eq, overriding_eq]
  exact ⟨rfl, rfl, rfl⟩

private theorem get?_overriding_swap (bare : plain.overrides = .empty) (differ : first.1 ≠ second.1)
    (name : String) :
    (plain.overriding (before ++ second :: first :: after)).overrides.get? name =
      (plain.overriding (before ++ first :: second :: after)).overrides.get? name := by
  rw [overrides_overriding bare, overrides_overriding bare, OrderedMap.get?_ofList,
    OrderedMap.get?_ofList, lastValue?_swap differ]

/-- Whatever the processes do, they are handed the same. -/
theorem handed_of_swap (bare : plain.overrides = .empty) (differ : first.1 ≠ second.1)
    {otherHost : Host} {attempt otherAttempt : Attempt}
    (started : attempt ∈
      ((plain.overriding (before ++ first :: second :: after)).run settings host).attempts)
    (startedToo : otherAttempt ∈
      ((plain.overriding (before ++ second :: first :: after)).run settings otherHost).attempts)
    (inherited : Environment) :
    otherAttempt.launch.argv = attempt.launch.argv ∧
      otherAttempt.launch.environment inherited = attempt.launch.environment inherited :=
  (sameBarOverrides_overriding plain _ _).handed (get?_overriding_swap bare differ)
    (launch_of_attempt started) (launch_of_attempt startedToo) inherited

theorem reordered_of_swap (bare : plain.overrides = .empty) (differ : first.1 ≠ second.1)
    {inherited : Environment} (regards : host.Regards inherited) :
    Reordered inherited
      ((plain.overriding (before ++ first :: second :: after)).run settings host)
      ((plain.overriding (before ++ second :: first :: after)).run settings host) := by
  have given (left right : String × String) :
      (plain.overriding (before ++ left :: right :: after)).overrides.isEmpty = false := by
    rw [overrides_overriding bare]
    exact OrderedMap.isEmpty_ofList (by simp)
  refine (sameBarOverrides_overriding plain _ _).reordered regards
    (get?_overriding_swap bare differ) (given _ _) (given _ _) ?_
  rw [overrides_overriding bare, overrides_overriding bare]
  rcases OrderedMap.entries_ofList_swap differ before after with
    unmoved | ⟨earlier, left, right, later, entries, otherEntries⟩
  · rw [OrderedMap.ext unmoved]
    exact .inl rfl
  · refine .inr ⟨earlier, left, right, later, ?_, ?_⟩
    · rw [← entries]
      rfl
    · rw [← otherEntries]
      rfl

end ExecTest

end Verdict
