import Verdict.Proofs.Execution.Containment
import Verdict.Proofs.Protocol.Outputs
/-! The way of subtests from the output of a test to the journal. Judging and concluding leave the
subtests of a record as the result lines have settled them, so the names that are left in the end
are the entries that are written: each once, in their order, with the verdict that was reported on
it last. With fewer than two names the record is written as it is. -/
namespace Verdict

/-! ### The subtests that are left

An output may report verdicts on subtests, take them all back and report others; what is left of
them are the last ones of all that were ever reported. So a subtest that is left has the verdict
that was reported on it last, anywhere in the output. -/

namespace Protocol

/-- The verdicts on subtests that a report gives. -/
def Report.verdicts : Report → List (String × Status)
  | .entry name value => if name = Field.subtest.name then (listed? value).getD [] else []
  | .subtests pairs => pairs

/-- All verdicts on subtests that were ever reported, in their order. -/
def everReported (reports : List Report) : List (String × Status) :=
  reports.flatMap Report.verdicts

/-- The names of the subtests that are left, in the order in which they were reported. -/
def namesLeft (before : Record) (reports : List Report) : List String :=
  ((reported before reports).map Prod.fst).eraseDups

variable {before after : Record} {reports : List Report}

private theorem everReported_concat (reports : List Report) (report : Report) :
    everReported (reports ++ [report]) = everReported reports ++ report.verdicts := by
  simp [everReported]

/-- The verdicts that are left are the last ones reported. A `subtest` entry takes back all earlier
ones and gives its own; every other report adds at the end or gives none. -/
private theorem reported_suffix (noSubtests : before.subtest = none) (reports : List Report) :
    reported before reports <:+ everReported reports := by
  induction reports using List.reverseRecOn with
  | nil => simp [reported, base?, latest?, lastValue?, added, noSubtests]
  | append_singleton reports report ih =>
    rw [everReported_concat]
    cases report with
    | entry name value =>
      by_cases isSubtest : name = Field.subtest.name
      · subst isSubtest
        rw [reported, base?_subtest_entry, added_subtest_entry]
        simp [Report.verdicts]
      · rw [reported, base?_entry isSubtest, added_entry isSubtest]
        simpa [Report.verdicts, isSubtest, reported] using ih
    | subtests pairs =>
      obtain ⟨earlier, whole⟩ := ih
      refine ⟨earlier, ?_⟩
      rw [← whole, reported, reported, base?_subtests, added_subtests, List.flatten_append,
        List.flatten_singleton]
      simp [Report.verdicts]

private theorem Settled.subtests_eq (settled : Settled before reports after) :
    after.subtests = (OrderedMap.ofList (reported before reports)).entries := by
  rw [Record.subtests, settled.subtest]
  split
  · rename_i absent
    rw [reported, absent.1, absent.2]
    rfl
  · rfl

private theorem Settled.map_fst_subtests (settled : Settled before reports after) :
    after.subtests.map Prod.fst = namesLeft before reports := by
  rw [settled.subtests_eq]
  exact OrderedMap.names_ofList _

/-- A subtest that is left has the last verdict that was ever reported on it. -/
private theorem Settled.lastValue?_of_mem (settled : Settled before reports after)
    (noSubtests : before.subtest = none) {name : String} {status : Status}
    (left : (name, status) ∈ after.subtests) :
    lastValue? (everReported reports) name = some status := by
  refine lastValue?_of_suffix (reported_suffix noSubtests reports) ?_
  rw [settled.subtests_eq] at left
  rw [← OrderedMap.get?_ofList]
  exact (mem_iff_lookup (OrderedMap.ofList (reported before reports)).distinct).mp left

end Protocol

open Protocol

/-! ### Entries of subtests -/

/-- The entries of a record whose subtests have these names, given all verdicts that were ever
reported on subtests. -/
structure Delivered (path : String) (parent : Record) (names : List String)
    (ever : List (String × Status)) (entries : List Entry) : Prop where
  left : parent.subtests.map Prod.fst = names
  verdict {name : String} {status : Status} (left : (name, status) ∈ parent.subtests) :
    lastValue? ever name = some status
  several (several : 2 ≤ names.length) : entries = names.map fun name =>
    ⟨path ++ "/" ++ name, { parent with result := lastValue? ever name }⟩
  few (few : names.length < 2) : entries = [⟨path, parent⟩]
  distinct : (entries.map Entry.path).Nodup

section
variable {path : String} {parent : Record}

private theorem subtestPath_injective :
    Function.Injective fun name : String => path ++ "/" ++ name := by
  intro left right same
  rw [← String.toList_inj] at same ⊢
  simpa using same

/-- A record never has two subtests of one name. -/
theorem nodup_map_fst_subtests (record : Record) : (record.subtests.map Prod.fst).Nodup := by
  unfold Record.subtests
  cases record.subtest with
  | none => exact List.nodup_nil
  | some subtests => exact subtests.distinct

private theorem entries_of_several (several : 1 < parent.subtests.length) :
    parent.entries path = parent.subtests.map fun subtest =>
      ⟨path ++ "/" ++ subtest.1, { parent with result := some subtest.2 }⟩ := by
  simp [Record.entries, Record.splits, several, Record.subtestRecords]

private theorem delivered_entries {ever : List (String × Status)}
    (verdict : ∀ {name status}, (name, status) ∈ parent.subtests →
      lastValue? ever name = some status) :
    Delivered path parent (parent.subtests.map Prod.fst) ever (parent.entries path) where
  left := rfl
  verdict := verdict
  several several := by
    rw [List.length_map] at several
    rw [entries_of_several several, List.map_map]
    refine List.map_congr_left fun subtest member => ?_
    rw [Function.comp_apply, verdict member]
  few few := by
    rw [List.length_map] at few
    exact entries_of_few (Nat.le_of_lt_succ few)
  distinct := by
    rcases Nat.lt_or_ge 1 parent.subtests.length with several | few
    · rw [entries_of_several several, List.map_map]
      have paths := (nodup_map_fst_subtests parent).map (@subtestPath_injective path)
      rwa [List.map_map] at paths
    · rw [entries_of_few few]
      exact List.nodup_singleton _

end

/-! ### Delivery -/

section
variable {test : ExecTest} {settings : Settings} {output : ProcessOutput}

/-- The result lines of an output without malformed ones merge into a record that their reports
settle. -/
theorem exists_settled {text : List Char} (before : Record)
    (wellFormed : ∀ line ∈ pieces '\n' text, mark <+: line → ¬ Malformed line) :
    ∃ reports next, (∀ other, Reports text other ↔ other = reports) ∧
      Settled before reports next ∧ applyOutput before text = .ok next := by
  obtain ⟨reports, reported, merges⟩ :=
    applyOutput_of_wellFormed fun line member => wellFormed line (mem_resultLines.mp member).1
      (mem_resultLines.mp member).2
  refine ⟨reports, reports.foldl merge before, fun other => ?_, settled_merged before reports,
    merges before⟩
  exact ⟨fun also => also.unique reported, fun same => same ▸ reported⟩

private theorem ExecTest.command_ne_nil_of_accepts {host : Host}
    (unchecked : settings.valgrind = false)
    (accepts : test.Accepts settings host output) : test.command ≠ [] := by
  obtain ⟨launch, asked, -⟩ := accepts
  have argv := (mem_launch?_iff.mp asked).1
  rw [effectiveCommand, unchecked] at argv
  rintro empty
  rw [empty] at argv
  cases argv

/-- A test without a kernel log that survives is concluded with the verdict and the subtests that
its result lines leave. -/
theorem conduct_of_merged {host : Host} {surroundings : Surroundings} {path : String}
    {next : Record} (protocol : test.interpreter = interpret) (runs : test.skipped = false)
    (unchecked : settings.valgrind = false) (accepts : test.Accepts settings host output)
    (survived : ¬ Crashed output.returncode)
    (merged : applyOutput (.ofStatus .fail) (Utf8.decode output.stdout) = .ok next) :
    let parent := ((test.toTestCase host).conduct settings {} surroundings path).record
    parent.result = some next.status ∧ parent.subtests = next.subtests := by
  intro parent
  have nonempty : test.command ≠ [] := ExecTest.command_ne_nil_of_accepts unchecked accepts
  have concluded : parent = (test.judge settings output).complete false surroundings.elapsed :=
    conduct_of_accepts runs nonempty accepts rfl rfl
  have seen : (test.seen output).record = withVerdict next := by
    have merges : applyOutput (.ofStatus .fail)
        (String.ofList (Utf8.decode output.stdout)).toList = .ok next := by
      rwa [String.toList_ofList]
    rw [ExecTest.seen, protocol, interpret_of_merged merges]
  have own : (test.judge settings output).result = some next.status := by
    rw [(ExecTest.judge_classified runs).survived unchecked survived, seen]
    rfl
  have kept : (test.judge settings output).subtests = next.subtests := by
    rw [subtests_judge runs, seen]
    rfl
  rw [concluded]
  refine ⟨?_, subtests_complete.trans kept⟩
  rw [result_complete, Record.status, own]
  rfl

/-- With a working sink and nothing that interferes, the subtests that the result lines of a test
leave are all written. Two names or more have an entry each, in their order and under paths of their
own, with the verdict reported on the name last in the whole output and with everything else from
the record of the test; fewer leave the one entry of that record. Either way the test is reported
and concluded with the verdict of the record, which is the one that its lines report. -/
theorem subtests_reach_journal (test : ExecTest) (settings : Settings) (host : Host)
    (output : ProcessOutput) (surroundings : Surroundings) (path : String) (shared : Shared)
    (protocol : test.interpreter = interpret) (runs : test.skipped = false)
    (enabled : settings.execute = true) (unchecked : settings.valgrind = false)
    (accepts : test.Accepts settings host output) (survived : ¬ Crashed output.returncode)
    (wellFormed : ∀ line ∈ pieces '\n' (Utf8.decode output.stdout), mark <+: line →
      ¬ Malformed line)
    (working : shared.sink.Working) :
    let execution := (test.toTestCase host).execute settings {} surroundings path shared
    let parent := ((test.toTestCase host).conduct settings {} surroundings path).record
    ∃ reports, (∀ other, Reports (Utf8.decode output.stdout) other ↔ other = reports) ∧
      Delivered path parent (namesLeft (.ofStatus .fail) reports) (everReported reports)
        execution.plan.entries ∧
      parent.result = some ((final (.ofStatus .fail) reports .result).getD .fail) ∧
      execution.failure = none ∧
      execution.shared.sink.taken =
        shared.sink.taken ++ execution.plan.entries.flatMap Entry.octets ∧
      execution.plan.steps.filterMap Step.reported? = [(path, parent.status)] ∧
      execution.shared.progress.tally = shared.progress.tally.add parent.status := by
  intro execution parent
  obtain ⟨reports, next, unique, settled, merged⟩ := exists_settled (.ofStatus .fail) wellFormed
  obtain ⟨result, subtests⟩ : parent.result = some next.status ∧
      parent.subtests = next.subtests :=
    conduct_of_merged protocol runs unchecked accepts survived merged
  have entries : execution.plan.entries = parent.entries path := entries_of_execute enabled
  obtain ⟨failure, taken⟩ := execution.plan.execute_working working
  obtain ⟨reported, concluded⟩ :
      execution.plan.steps.filterMap Step.reported? = [(path, parent.status)] ∧
        execution.plan.steps.filterMap Step.concluded? = [parent.status] :=
    reports_of_execute enabled
  have counted := Task.tally_finish execution.plan.steps 0 none working
  rw [concluded] at counted
  refine ⟨reports, unique, ?_, ?_, failure, taken, reported, counted⟩
  · rw [entries, ← settled.map_fst_subtests, ← subtests]
    refine delivered_entries fun left => settled.lastValue?_of_mem rfl ?_
    rwa [← subtests]
  · rw [result]
    exact settled.lastWins.result

/-- What a process leaves that takes its first subtests back and repeats a name among the others. -/
def revisedOutput : ProcessOutput :=
  { stdout := ("PIGLIT: subtest \x7b'a': 'pass', 'b': 'fail'\x7d\n"
      ++ "PIGLIT: \x7b'subtest': None, 'result': 'pass'\x7d\n"
      ++ "PIGLIT: subtest \x7b'c': 'skip', 'b': 'pass'\x7d\nPIGLIT: subtest \x7b'c': 'warn'\x7d\n"
      ).toUTF8.data.toList
    returncode := some 1 }

/-- The subtest that was taken back has no entry, and the repeated one has its last verdict. -/
theorem subtests_reach_journal_after_revision :
    let execution := ((ExecTest.make ["fbo"] ⟨""⟩).toTestCase fun _ _ =>
      .finished revisedOutput).execute {} {} ⟨.zero, ""⟩ "spec/fbo" {}
    ¬ Crashed revisedOutput.returncode ∧
      (∀ line ∈ pieces '\n' (Utf8.decode revisedOutput.stdout), mark <+: line → ¬ Malformed line) ∧
      execution.plan.entries.map (fun entry => (entry.path, entry.record.result)) =
        [("spec/fbo/c", some .warn), ("spec/fbo/b", some .pass)] ∧
      execution.shared.progress.tally = Tally.empty.add .pass := by
  intro execution
  let test : ExecTest := .make ["fbo"] ⟨""⟩
  let host : Host := fun _ _ => .finished revisedOutput
  let next : Record :=
    { result := some .pass, subtest := some (.ofList [("c", .warn), ("b", .pass)]) }
  have accepts : test.Accepts {} host revisedOutput := ⟨_, rfl, rfl⟩
  have survived : ¬ Crashed revisedOutput.returncode := by
    change ¬ Crashed (some 1)
    rw [ExecTest.crashed_some_iff]
    decide
  have merged : applyOutput (.ofStatus .fail) (Utf8.decode revisedOutput.stdout) = .ok next := by
    decide +kernel
  have wellFormed : ∀ line ∈ pieces '\n' (Utf8.decode revisedOutput.stdout), mark <+: line →
      ¬ Malformed line := fun line piece marked =>
    applyOutput_accepted_iff.mp ⟨next, merged⟩ line (mem_resultLines.mpr ⟨piece, marked⟩)
  obtain ⟨reports, -, delivered, -, -, -, -, concluded⟩ :=
    subtests_reach_journal test {} host revisedOutput ⟨.zero, ""⟩ "spec/fbo" {} rfl (by decide) rfl
      rfl accepts survived wellFormed ⟨by decide, by simp, by simp⟩
  obtain ⟨result, subtests⟩ := conduct_of_merged rfl (by decide) rfl accepts survived merged
  have names : namesLeft (.ofStatus .fail) reports = ["c", "b"] := by
    rw [← delivered.left, subtests]
    decide
  have entries := delivered.several (by rw [names]; decide)
  have lastOfC : lastValue? (everReported reports) "c" = some .warn :=
    delivered.verdict (by rw [subtests]; decide)
  have lastOfB : lastValue? (everReported reports) "b" = some .pass :=
    delivered.verdict (by rw [subtests]; decide)
  refine ⟨survived, wellFormed, ?_, concluded.trans ?_⟩
  · rw [entries, names]
    simp [lastOfC, lastOfB]
  · rw [Record.status, result]
    rfl

end

end Verdict
