import Verdict.Proofs.Exec.Ownership
import Verdict.Proofs.Execution.Containment
import Verdict.Proofs.Record.Reading
/-! Which names extra fields can have in what is written. Every way to come to a record keeps the
names of the known fields out of its extra fields: reading loose fields, interpreting what a process
printed, containing a fault, and dividing a record by its subtests. So no object that a test writes
has a name twice. -/
namespace Verdict

/-! ### Interpretation -/

/-- Whatever was printed, the extra fields under the names of known ones stay as they were. -/
private theorem Protocol.extra_interpret_known (output : String) (code : Option ReturnCode)
    (record : Record) (field : Field) :
    (interpret output code record).record.extra.get? field.name =
      record.extra.get? field.name := by
  unfold interpret
  split
  · rename_i updated merged
    obtain ⟨parts, -, rfl⟩ := foldlM_applyLine_eq_ok merged
    exact (settled_merged record parts.flatten).extraKnown field
  · rfl

private theorem Record.Unshadowed.interpret {record : Record} (clean : record.Unshadowed)
    (output : String)
    (code : Option ReturnCode) : (Protocol.interpret output code record).record.Unshadowed := by
  rw [unshadowed_iff] at clean ⊢
  intro field
  rw [Protocol.extra_interpret_known, clean field]

/-! ### Runs of executables -/

namespace ExecTest

variable {test : ExecTest} {settings : Settings} {host : Host} {record : Record}

private theorem extra_withReturnCode (record : Record) (code : Option ReturnCode) :
    (withReturnCode record code).extra = record.extra := by
  cases code with
  | none => rfl
  | some code =>
    simp only [withReturnCode]
    split
    · rfl
    · split <;> rfl

/-- Judging adds nothing to the extra fields that the interpreter left. -/
theorem extra_judge (output : ProcessOutput) :
    (test.judge settings output).extra = (test.interpretation output).record.extra :=
  extra_withReturnCode _ _

private theorem judge_unshadowed (protocol : test.interpreter = Protocol.interpret)
    (output : ProcessOutput) : (test.judge settings output).Unshadowed := by
  refine Record.Unshadowed.of_extra ?_ (extra_judge output)
  unfold interpretation
  split
  · exact Record.unshadowed_of_no_extra rfl
  · rw [protocol]
    exact (Record.unshadowed_of_no_extra rfl).interpret _ _

private theorem run_unshadowed (protocol : test.interpreter = Protocol.interpret)
    (returned : (test.run settings host).result = .ok record) : record.Unshadowed := by
  rcases run_eq_ok_cases returned with ⟨-, rfl⟩ | ⟨-, -, rfl⟩ | ⟨-, -, output, -, rfl⟩
  · exact Record.unshadowed_of_no_extra rfl
  · exact judge_unshadowed protocol _
  · exact judge_unshadowed protocol output

end ExecTest

/-! ### Conducted tests -/

/-- If the test returns a record, no extra field of it has the name of a known one. Loose fields are
free to have any names. -/
def TestCase.ReturnsUnshadowed (test : TestCase) (settings : Settings) : Prop :=
  ∀ record, (test.run settings).outcome = .ok (.record record) → record.Unshadowed

/-- A kernel log that changes only known fields. -/
def KernelLog.KeepsExtra (kernelLog : KernelLog) : Prop :=
  ∀ record annotated, kernelLog.annotate record = .ok annotated → annotated.extra = record.extra

private theorem ExecTest.returnsUnshadowed {test : ExecTest}
    (protocol : test.interpreter = Protocol.interpret) (host : Host) (settings : Settings) :
    (test.toTestCase host).ReturnsUnshadowed settings := by
  intro record returned
  simp only [toTestCase] at returned
  cases result : (test.run settings host).result with
  | error error =>
    rw [result] at returned
    cases returned
  | ok judged =>
    rw [result] at returned
    cases returned
    exact run_unshadowed protocol result

section
variable {test : TestCase} {settings : Settings} {kernelLog : KernelLog}
  {surroundings : Surroundings} {path : String}

private theorem TestCase.Ran.unshadowed {output : TestOutput} {record : Record}
    (ran : test.Ran settings kernelLog output) (returns : test.ReturnsUnshadowed settings)
    (makes : output.Makes record) : record.Unshadowed := by
  cases makes with
  | record => exact returns record ran.returned
  | fields read => exact (Record.ofFields_eq_ok_iff.mp read).unshadowed

private theorem Fault.toRecord_unshadowed (fault : Fault) (backtrace : String) :
    (fault.toRecord backtrace).Unshadowed :=
  Record.unshadowed_of_no_extra rfl

/-- The record that a test is concluded with is that of a fault, or what was returned as the kernel
log has left it. -/
theorem TestCase.conduct_unshadowed (returns : test.ReturnsUnshadowed settings)
    (keeps : kernelLog.KeepsExtra) :
    (test.conduct settings kernelLog surroundings path).record.Unshadowed := by
  have concludes : test.Concludes settings kernelLog surroundings
      (test.conduct settings kernelLog surroundings path).record :=
    (TestCase.concludes_iff path).mpr rfl
  generalize (test.conduct settings kernelLog surroundings path).record = record at concludes ⊢
  cases concludes with
  | stopped => exact Record.unshadowed_of_no_extra rfl
  | @passed output annotated record passes completed =>
    obtain ⟨ran, returned, makes, annotates⟩ := passes
    have clean : annotated.Unshadowed :=
      (ran.unshadowed returns makes).of_extra (keeps returned annotated annotates)
    have kept : record.extra = annotated.extra := by rw [completed.kept]
    exact clean.of_extra kept

/-- Dividing a record by its subtests keeps the extra fields of all its entries. -/
theorem Record.Unshadowed.entries {record : Record} (clean : record.Unshadowed) {entry : Entry}
    (member : entry ∈ record.entries path) : entry.record.Unshadowed := by
  unfold Record.entries at member
  split at member
  · obtain ⟨subtest, listed, rfl⟩ := List.mem_map.mp member
    exact clean.subtestRecords listed
  · rw [List.mem_singleton.mp member]
    exact clean

private theorem Entry.distinctNames (entry : Entry) : entry.toJson.DistinctNames :=
  ⟨_, rfl, by simp⟩

/-- A test has entries to write only if it was conducted. -/
theorem TestCase.mem_entries_of_execute {shared : Shared} {entry : Entry}
    (member : entry ∈ (test.execute settings kernelLog surroundings path shared).plan.entries) :
    entry ∈ (test.conduct settings kernelLog surroundings path).record.entries path := by
  cases enabled : settings.execute with
  | true => rwa [entries_of_execute enabled] at member
  | false =>
    have none := (test.plan_of_dryRun kernelLog surroundings path enabled).2
    exact absurd (none ▸ member) List.not_mem_nil

end

/-- Extra fields never have the names of known ones. Interpreting any output keeps it so; it is so
for every record that is read from loose fields, that a run of an executable with the result
protocol returns, or that a contained fault leaves; and it stays so for the record of each subtest.
Hence in every object that a test writes, the line as well as the record in it, no two members have
the same name, unless the test itself returns such a record or the kernel log adds extra fields. -/
theorem extra_never_shadows :
    (∀ (output : String) (code : Option ReturnCode) (record : Record), record.Unshadowed →
      (Protocol.interpret output code record).record.Unshadowed) ∧
    (∀ (fields : SortedMap Json) (record : Record), Record.ofFields fields = .ok record →
      record.Unshadowed) ∧
    (∀ (test : ExecTest) (settings : Settings) (host : Host) (record : Record),
      test.interpreter = Protocol.interpret → (test.run settings host).result = .ok record →
      record.Unshadowed) ∧
    (∀ (fault : Fault) (backtrace : String), (fault.toRecord backtrace).Unshadowed) ∧
    (∀ record : Record, record.Unshadowed →
      ∀ subtest ∈ record.subtestRecords, subtest.2.Unshadowed) ∧
    (∀ (test : ExecTest) (settings : Settings) (host : Host),
      test.interpreter = Protocol.interpret → (test.toTestCase host).ReturnsUnshadowed settings) ∧
    ∀ (test : TestCase) (settings : Settings) (kernelLog : KernelLog) (surroundings : Surroundings)
      (path : String) (shared : Shared),
      test.ReturnsUnshadowed settings → kernelLog.KeepsExtra →
      ∀ entry ∈ (test.execute settings kernelLog surroundings path shared).plan.entries,
        entry.record.Unshadowed ∧ entry.record.toJson.DistinctNames ∧
          entry.toJson.DistinctNames := by
  refine ⟨fun output code record clean => clean.interpret output code, ?_, ?_,
    Fault.toRecord_unshadowed, fun record clean _ member => clean.subtestRecords member, ?_, ?_⟩
  · intro fields record accepted
    exact (Record.ofFields_eq_ok_iff.mp accepted).unshadowed
  · intro test settings host record protocol returned
    exact ExecTest.run_unshadowed protocol returned
  · intro test settings host protocol
    exact ExecTest.returnsUnshadowed protocol host settings
  · intro test settings kernelLog surroundings path shared returns keeps entry member
    have clean : entry.record.Unshadowed :=
      (TestCase.conduct_unshadowed returns keeps).entries (TestCase.mem_entries_of_execute member)
    exact ⟨clean, clean.distinctNames, entry.distinctNames⟩

/-- What a process leaves that reports known fields among others, and subtests with their names. -/
def namesakeOutput : ProcessOutput :=
  { stdout := ("PIGLIT: \x7b'command': 'none', 'path': 'elsewhere', "
      ++ "'subtest': \x7b'note': 'pass', 'time': 'fail'\x7d\x7d\n").toUTF8.data.toList
    returncode := some 0 }

/-- A process may report any names; and a test that returns loose fields, one of them unknown and
one of them `null`, is accepted. -/
theorem extra_never_shadows_of_namesakes :
    let test := ExecTest.make ["fbo"] ⟨""⟩
    let host : Host := fun _ _ => .finished namesakeOutput
    let judged := test.judge {} namesakeOutput
    let fields : SortedMap Json := ⟨[("info", .null), ("path", .str "x")], by decide +kernel⟩
    let read : Record := { extra := ⟨[("path", .str "x")], by decide +kernel⟩ }
    let kernelLog := KernelLog.replacing (some .warn) none none
    let entries :=
      ((test.toTestCase host).execute {} kernelLog ⟨.zero, ""⟩ "spec/fbo" {}).plan.entries
    (Record.ofFields fields = .ok read ∧ read.Unshadowed ∧
      (Protocol.interpret "PIGLIT: \x7b'info': 'none'\x7d" none read).record.Unshadowed) ∧
    ((test.run {} host).result = .ok judged ∧ judged.Unshadowed) ∧
    entries.map (fun entry => (entry.path, entry.record.members.map Prod.fst)) =
      [("spec/fbo/note", ["result", "subtest", "info", "returncode", "command", "time", "path"]),
        ("spec/fbo/time", ["result", "subtest", "info", "returncode", "command", "time", "path"])] ∧
    ∀ entry ∈ entries, entry.record.toJson.DistinctNames ∧ entry.toJson.DistinctNames := by
  intro test host judged fields read kernelLog entries
  obtain ⟨interprets, reads, runs, -, -, returns, writes⟩ := extra_never_shadows
  have accepted : Record.ofFields fields = .ok read := by decide +kernel
  have clean : read.Unshadowed := reads fields read accepted
  have finished : (test.run {} host).result = .ok judged := rfl
  refine ⟨⟨accepted, clean, interprets _ none read clean⟩,
    ⟨finished, runs test {} host judged rfl finished⟩, by decide +kernel, ?_⟩
  have keeps : kernelLog.KeepsExtra := by
    intro record annotated annotates
    cases annotates
    rfl
  have protocol : (test.toTestCase host).ReturnsUnshadowed {} := returns test {} host rfl
  intro entry member
  exact (writes _ {} kernelLog ⟨.zero, ""⟩ "spec/fbo" {} protocol keeps entry member).2

end Verdict
