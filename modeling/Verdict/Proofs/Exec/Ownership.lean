import Verdict.Proofs.Exec.Classification
import Verdict.Proofs.Protocol.Merging
/-! Who fills the fields of a record. The environment of a test is its own to tell, and exceptions
and their tracebacks belong to those who contain a fault; but an output can report all three like
any other text. Overrides replace the environment that was reported, and nothing replaces the other
two. So the fields are left to their owners exactly when the output does not claim them. -/
namespace Verdict

namespace Protocol

/-- An output claims a text for a field: no result line is malformed, and the last entry under the
name of the field has this text. -/
def Claims (output : List Char) (field : TextField) (text : String) : Prop :=
  (∀ line ∈ pieces '\n' output, mark <+: line → ¬ Malformed line) ∧
    ∃ reports, Reports output reports ∧
      latest? reports (Field.text field).name = some (.plain (.text text))

private theorem textMeaning_eq_some_iff {field : TextField} {value : Literal} {text : String} :
    meaning.slot (.text field) value = some text ↔ value = .plain (.text text) := by
  cases value with
  | mapping entries => simp [meaning]
  | plain value => cases value <;> simp [meaning]

private theorem text_ofStatus (status : Status) (field : TextField) :
    (Record.ofStatus status).text field = none := by
  cases field <;> rfl

variable {output : String} {code : Option ReturnCode} {status : Status} {field : TextField}

/-- An output without malformed result lines leaves in a text field what it reported last. -/
theorem interpret_text_of_wellFormed
    (wellFormed : ∀ line ∈ resultLines output.toList, ¬ Malformed line) :
    ∃ reports, Reports output.toList reports ∧
      (interpret output code (.ofStatus status)).record.text field =
        (latest? reports (Field.text field).name).bind (meaning.slot (.text field)) := by
  obtain ⟨reports, reported, merges⟩ := applyOutput_of_wellFormed wellFormed
  have told : (withVerdict (reports.foldl merge (.ofStatus status))).text field =
      final (.ofStatus status) reports (.text field) :=
    (settled_merged (.ofStatus status) reports).lastWins.slot (.text field) nofun nofun
  refine ⟨reports, reported, ?_⟩
  simp only [interpret, merges, told, final]
  cases latest? reports (Field.text field).name with
  | none => exact text_ofStatus status field
  | some value => rfl

private theorem interpret_text_of_refused (refused : Refused output (.ofStatus status))
    (noNote : field ≠ .note) :
    (interpret output code (.ofStatus status)).record.text field = none := by
  obtain ⟨refusal, refused⟩ := refused
  rw [← text_ofStatus status field]
  simp only [interpret, refused]
  cases field <;> first | rfl | exact absurd rfl noNote

/-- Interpretation that starts from a bare verdict leaves in a text field what the output claims for
it. The note is apart, since a refusal writes one. -/
theorem interpret_text_iff (noNote : field ≠ .note) {text : String} :
    (interpret output code (.ofStatus status)).record.text field = some text ↔
      Claims output.toList field text := by
  by_cases wellFormed : ∀ line ∈ resultLines output.toList, ¬ Malformed line
  · obtain ⟨reports, reported, left⟩ :=
      @interpret_text_of_wellFormed output code status field wellFormed
    rw [left, Option.bind_eq_some_iff]
    constructor
    · rintro ⟨value, latest, means⟩
      rw [textMeaning_eq_some_iff] at means
      refine ⟨fun line member marked => ?_, reports, reported, means ▸ latest⟩
      exact wellFormed line (mem_resultLines.mpr ⟨member, marked⟩)
    · rintro ⟨-, others, alsoReported, latest⟩
      rw [alsoReported.unique reported] at latest
      exact ⟨_, latest, textMeaning_eq_some_iff.mpr rfl⟩
  · have refused : Refused output (.ofStatus status) := by
      rw [refused_iff]
      simpa using wellFormed
    rw [interpret_text_of_refused refused noNote]
    constructor
    · exact nofun
    · rintro ⟨sound, -⟩
      refine absurd (fun line member => ?_) wellFormed
      obtain ⟨piece, marked⟩ := mem_resultLines.mp member
      exact sound line piece marked

end Protocol

namespace ExecTest
open Protocol

/-- The environment that a record shows is that of the test's overrides, and no fault is told of. -/
structure Owned (test : ExecTest) (record : Record) : Prop where
  environment : record.environment =
    if test.overrides.isEmpty then none
    else some (String.join (test.overrides.entries.map fun (key, value) =>
      key ++ "=\"" ++ value ++ "\" "))
  exception : record.exception = none
  traceback : record.traceback = none

/-- What the fields say that the output of a test may claim. -/
structure Told (test : ExecTest) (stdout : List Char) (record : Record) : Prop where
  overridden (given : test.overrides.isEmpty = false) : record.environment =
    some (String.join (test.overrides.entries.map fun (key, value) =>
      key ++ "=\"" ++ value ++ "\" "))
  environment (bare : test.overrides.isEmpty = true) (text : String) :
    record.environment = some text ↔ Claims stdout .environment text
  exception (text : String) : record.exception = some text ↔ Claims stdout .exception text
  traceback (text : String) : record.traceback = some text ↔ Claims stdout .traceback text

/-- The output claims no field that is not its own; an environment is replaced if there are
overrides. -/
structure Unclaimed (test : ExecTest) (stdout : List Char) : Prop where
  environment (bare : test.overrides.isEmpty = true) (text : String) :
    ¬ Claims stdout .environment text
  exception (text : String) : ¬ Claims stdout .exception text
  traceback (text : String) : ¬ Claims stdout .traceback text

variable {test : ExecTest} {settings : Settings} {host : Host} {output : ProcessOutput}
  {record : Record}

private theorem Told.owned_iff {stdout : List Char} (told : Told test stdout record) :
    Owned test record ↔ Unclaimed test stdout := by
  constructor
  · intro owned
    refine ⟨fun bare text claimed => ?_, fun text claimed => ?_, fun text claimed => ?_⟩
    · have shown := owned.environment.symm.trans ((told.environment bare text).mpr claimed)
      rw [if_pos bare] at shown
      cases shown
    · cases owned.exception.symm.trans ((told.exception text).mpr claimed)
    · cases owned.traceback.symm.trans ((told.traceback text).mpr claimed)
  · intro unclaimed
    refine ⟨?_, Option.eq_none_iff_forall_ne_some.mpr fun text shown => ?_,
      Option.eq_none_iff_forall_ne_some.mpr fun text shown => ?_⟩
    · cases bare : test.overrides.isEmpty with
      | true =>
        refine Option.eq_none_iff_forall_ne_some.mpr fun text shown => ?_
        exact unclaimed.environment bare text ((told.environment bare text).mp shown)
      | false => exact told.overridden bare
    · exact unclaimed.exception text ((told.exception text).mp shown)
    · exact unclaimed.traceback text ((told.traceback text).mp shown)

/-! ### Judged records -/

/-- The return code changes no text but the note. -/
theorem withReturnCode_text {code : Option ReturnCode} {field : TextField}
    (noNote : field ≠ .note) : (withReturnCode record code).text field = record.text field := by
  cases code with
  | none => rfl
  | some value =>
    simp only [withReturnCode]
    split
    · cases field <;> rfl
    · split
      · rfl
      · cases field <;> first | rfl | exact absurd rfl noNote

theorem judge_environment : (test.judge settings output).environment =
    if test.overrides.isEmpty then (test.interpretation output).record.environment
    else some (environmentText test.overrides) := by
  have kept : (withReturnCode (test.interpretation output).record output.returncode).environment =
      (test.interpretation output).record.environment :=
    @withReturnCode_text (test.interpretation output).record output.returncode .environment nofun
  simp only [judge, kept]

private theorem judge_exception : (test.judge settings output).exception =
    (test.interpretation output).record.exception :=
  @withReturnCode_text (test.interpretation output).record output.returncode .exception nofun

private theorem judge_traceback : (test.judge settings output).traceback =
    (test.interpretation output).record.traceback :=
  @withReturnCode_text (test.interpretation output).record output.returncode .traceback nofun

private theorem judge_told (protocol : test.interpreter = Protocol.interpret)
    (runs : test.skipped = false) :
    Told test (Utf8.decode output.stdout) (test.judge settings output) := by
  have claimed : ∀ field : TextField, field ≠ .note → ∀ text,
      (test.interpretation output).record.text field = some text ↔
        Claims (Utf8.decode output.stdout) field text := by
    intro field noNote text
    rw [interpretation_of_runs runs, seen, protocol, interpret_text_iff noNote,
      String.toList_ofList]
  refine ⟨fun given => ?_, fun bare text => ?_, fun text => ?_, fun text => ?_⟩
  · rw [judge_environment, given]
    rfl
  · rw [judge_environment, if_pos bare]
    exact claimed .environment (by decide) text
  · rw [judge_exception]
    exact claimed .exception (by decide) text
  · rw [judge_traceback]
    exact claimed .traceback (by decide) text

private theorem judge_owned_of_skipped (skipped : test.skipped = true) :
    Owned test (test.judge settings output) := by
  have interpreted : (test.interpretation output).record = .ofStatus .skip := by
    simp [interpretation, skipped]
  refine ⟨?_, ?_, ?_⟩
  · rw [judge_environment, interpreted]
    rfl
  · rw [judge_exception, interpreted]
    rfl
  · rw [judge_traceback, interpreted]
    rfl

/-! ### Runs -/

/-- A run that returns a record starts nothing, for want of a command or because the platform skips
the test, or it accepts an output and returns the record that this is judged to be. -/
theorem run_eq_ok_cases (returned : (test.run settings host).result = .ok record) :
    (test.command = [] ∧ record = .ofStatus .skip) ∨
      (test.command ≠ [] ∧ test.skipped = true ∧
        record = test.judge settings (.synthetic skipOutput)) ∨
      (test.command ≠ [] ∧ test.skipped = false ∧
        ∃ output, test.Accepts settings host output ∧ record = test.judge settings output) := by
  unfold run at returned
  split at returned
  · rename_i command
    cases returned
    exact .inl ⟨command, rfl⟩
  · rename_i effective nonempty
    exact absurd effective (effectiveCommand_ne_nil nonempty)
  · rename_i first others program arguments command effective
    have nonempty : test.command ≠ [] := by simp [command]
    refine .inr ?_
    split at returned
    · rename_i skipped
      cases returned
      exact .inl ⟨nonempty, skipped, rfl⟩
    · rename_i runs
      simp only at returned
      split at returned
      · cases returned
      · rename_i output accepted
        cases returned
        refine .inr ⟨nonempty, (Bool.not_eq_true _).mp runs, output, ?_, rfl⟩
        exact ⟨⟨program, arguments, test.overrides⟩, by simp [launch?, effective], accepted⟩

/-- A record that a run returns leaves its fields to their owners exactly when the output that was
accepted claims none of them, and it repeats every claim that is made; only an environment that is
claimed beside overrides gives way to theirs. A test that its platform skips is not asked, and one
without a command says no more than that it was skipped. -/
theorem run_owned_iff_unclaimed (test : ExecTest) (settings : Settings) (host : Host)
    (protocol : test.interpreter = Protocol.interpret) (record : Record)
    (returned : (test.run settings host).result = .ok record) :
    (test.command = [] → record = .ofStatus .skip) ∧
    (test.command ≠ [] → test.skipped = true → Owned test record) ∧
    (test.command ≠ [] → test.skipped = false →
      ∃ output, test.Accepts settings host output ∧
        Told test (Utf8.decode output.stdout) record ∧
        (Owned test record ↔ Unclaimed test (Utf8.decode output.stdout))) := by
  rcases run_eq_ok_cases returned with
    ⟨empty, rfl⟩ | ⟨nonempty, skipped, rfl⟩ | ⟨nonempty, runs, output, accepts, rfl⟩
  · exact ⟨fun _ => rfl, fun nonempty => absurd empty nonempty,
      fun nonempty => absurd empty nonempty⟩
  · refine ⟨fun empty => absurd empty nonempty, fun _ _ => judge_owned_of_skipped skipped, ?_⟩
    intro _ runs
    rw [skipped] at runs
    cases runs
  · refine ⟨fun empty => absurd empty nonempty, ?_, fun _ _ => ?_⟩
    · intro _ skipped
      rw [skipped] at runs
      cases runs
    · have told : Told test (Utf8.decode output.stdout) (test.judge settings output) :=
        judge_told protocol runs
      exact ⟨output, accepts, told, told.owned_iff⟩

/-- What a process leaves that passes and claims an environment and an exception for itself. -/
def claimingOutput : ProcessOutput :=
  { stdout := ("PIGLIT: \x7b'result': 'pass', 'exception': 'boom', 'traceback': 'nowhere', "
      ++ "'environment': 'DISPLAY=9'\x7d\n").toUTF8.data.toList
    returncode := some 0 }

/-- Overrides replace the environment that the process claims, but not the exception. -/
theorem run_owned_iff_unclaimed_with_override :
    let test := (make ["fbo"] ⟨""⟩).withOverride "A" "1"
    let host : Host := fun _ _ => .finished claimingOutput
    let record := test.judge {} claimingOutput
    (test.run {} host).result = .ok record ∧ record.environment = some "A=\"1\" " ∧
      ∃ output, test.Accepts {} host output ∧
        Claims (Utf8.decode output.stdout) .exception "boom" ∧
        ¬ Unclaimed test (Utf8.decode output.stdout) := by
  intro test host record
  have returned : (test.run {} host).result = .ok record := rfl
  obtain ⟨output, accepts, told, -⟩ :=
    (run_owned_iff_unclaimed test {} host rfl record returned).2.2 (by decide) rfl
  have claimed : Claims (Utf8.decode output.stdout) .exception "boom" :=
    (told.exception "boom").mp (by decide +kernel)
  exact ⟨returned, told.overridden rfl, output, accepts, claimed,
    fun unclaimed => unclaimed.exception "boom" claimed⟩

/-- A process that passes and claims the fields that are not its own has them in its record: there
are no overrides, and no fault was contained. -/
theorem claims_forge_owned_fields :
    let record := (make ["fbo"] ⟨""⟩).judge {} claimingOutput
    ((make ["fbo"] ⟨""⟩).run {} fun _ _ => .finished claimingOutput).result = .ok record ∧
      record.result = some .pass ∧ record.environment = some "DISPLAY=9" ∧
      record.exception = some "boom" ∧ record.traceback = some "nowhere" := by
  decide +kernel

end ExecTest

end Verdict
