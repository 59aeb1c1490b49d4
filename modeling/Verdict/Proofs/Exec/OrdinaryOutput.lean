import Verdict.Proofs.Exec.Classification
import Verdict.Proofs.Text.Decoding
/-! What a test prints beside its result lines. The record of a run is made from the return code and
the lines that begin with the mark; everything else, on whichever stream and however ill-formed, can
be read in the account of the run and nowhere else. -/
namespace Verdict

namespace Protocol

/-- The octets of the mark. -/
def markOctets : List UInt8 := [0x50, 0x49, 0x47, 0x4C, 0x49, 0x54, 0x3A]

/-- The lines of octets that begin with the mark, in order. -/
def markedLines (octets : List UInt8) : List (List UInt8) :=
  (pieces 0x0A octets).filter markOctets.isPrefixOf

private theorem mark_ascii :
    ∀ character ∈ mark, ¬ Utf8.Wide character := Utf8.narrow_of_all (by decide)

private theorem isResultLine_decode (octets : List UInt8) :
    isResultLine (Utf8.decode octets) = markOctets.isPrefixOf octets := by
  have octetsOfMark : mark.map (fun character => UInt8.ofNat character.toNat) = markOctets := by
    decide
  rw [Bool.eq_iff_iff, isResultLine, List.isPrefixOf_iff_prefix, List.isPrefixOf_iff_prefix,
    Utf8.prefix_decode_iff mark_ascii, octetsOfMark]

/-- The result lines of a decoded output are its marked lines, each decoded on its own. -/
theorem resultLines_decode (octets : List UInt8) :
    resultLines (Utf8.decode octets) = (markedLines octets).map Utf8.decode := by
  unfold resultLines markedLines
  rw [Utf8.pieces_decode, List.filter_map, Utf8.lineFeed]
  congr 2
  funext line
  exact isResultLine_decode line

/-- Interpretation makes the same record of outputs with the same result lines. -/
private theorem interpret_record_of_resultLines {first second : String}
    (same : resultLines first.toList = resultLines second.toList) (code : Option ReturnCode)
    (record : Record) :
    (interpret first code record).record = (interpret second code record).record := by
  have merged : applyOutput record first.toList = applyOutput record second.toList := by
    unfold applyOutput
    rw [same]
  unfold interpret
  rw [merged]
  cases applyOutput record second.toList <;> rfl

end Protocol

namespace ExecTest

variable {test : ExecTest} {settings : Settings} {first second : ProcessOutput}

/-- Judging depends on what the interpreter made of the output and on the return code; the rest of
the output is in the account of the run only. -/
private theorem judge_of_same (interpreted :
      (test.interpretation first).record = (test.interpretation second).record)
    (sameCode : first.returncode = second.returncode) :
    ∃ info, test.judge settings second = { test.judge settings first with info } := by
  refine ⟨(test.judge settings second).info, ?_⟩
  unfold judge
  simp only [interpreted, sameCode]

private theorem interpretation_of_markedLines (protocol : test.interpreter = Protocol.interpret)
    (sameCode : first.returncode = second.returncode)
    (sameLines : Protocol.markedLines first.stdout = Protocol.markedLines second.stdout) :
    (test.interpretation first).record = (test.interpretation second).record := by
  have lines : Protocol.resultLines (Utf8.decode first.stdout) =
      Protocol.resultLines (Utf8.decode second.stdout) := by
    rw [Protocol.resultLines_decode, Protocol.resultLines_decode, sameLines]
  unfold interpretation
  split
  · rfl
  · rw [protocol, sameCode]
    apply Protocol.interpret_record_of_resultLines
    simpa using lines

/-- A test that starts nothing returns the same on every host. -/
private theorem run_of_idle (idle : test.skipped = true ∨ test.command = []) (settings : Settings)
    (host other : Host) :
    ∃ record, (test.run settings host).result = .ok record ∧
      (test.run settings other).result = .ok record := by
  unfold run
  split
  · exact ⟨_, rfl, rfl⟩
  · exact ⟨_, rfl, rfl⟩
  · rename_i command effective
    have skipped : test.skipped = true := idle.resolve_right (by simp [command])
    simp [skipped]

/-- Two runs of a test under the same settings return the same record, the account of the run aside,
if the outputs they come to have the same return code and the same marked lines. What else was
printed makes no difference, be it text or not, and neither does the other stream. -/
theorem ordinary_output_ignored (test : ExecTest) (settings : Settings) (firstHost secondHost : Host)
    (first second : ProcessOutput) (protocol : test.interpreter = Protocol.interpret)
    (acceptsFirst : test.Accepts settings firstHost first)
    (acceptsSecond : test.Accepts settings secondHost second)
    (sameCode : first.returncode = second.returncode)
    (sameLines : Protocol.markedLines first.stdout = Protocol.markedLines second.stdout) :
    ∃ record info, (test.run settings firstHost).result = .ok record ∧
      (test.run settings secondHost).result = .ok { record with info } := by
  by_cases idle : test.skipped = true ∨ test.command = []
  · obtain ⟨record, returned, returnedToo⟩ := run_of_idle idle settings firstHost secondHost
    exact ⟨record, record.info, returned, returnedToo⟩
  · obtain ⟨runs, nonempty⟩ := not_or.mp idle
    rw [Bool.not_eq_true] at runs
    obtain ⟨info, judged⟩ :
        ∃ info, test.judge settings second = { test.judge settings first with info } :=
      judge_of_same (interpretation_of_markedLines protocol sameCode sameLines) sameCode
    refine ⟨test.judge settings first, info, run_of_accepts runs nonempty acceptsFirst, ?_⟩
    rw [run_of_accepts runs nonempty acceptsSecond, judged]

/-- A result line alone. -/
def quietOutput : ProcessOutput :=
  { stdout := "PIGLIT: \x7b'result': 'warn'\x7d".toUTF8.data.toList, returncode := some 1 }

/-- The same line between a character broken off at the end of a line and octets that begin none. -/
def noisyOutput : ProcessOutput :=
  { stdout := [0xE2, 0x82, 0x0A] ++ quietOutput.stdout ++ [0x0A, 0xFF, 0x80, 0x50, 0x49]
    stderr := [0xC3], returncode := some 1 }

theorem noise_around_result_line :
    Protocol.markedLines quietOutput.stdout = Protocol.markedLines noisyOutput.stdout ∧
      ∃ record info,
        ((make ["fbo"] ⟨""⟩).run {} fun _ _ => .finished quietOutput).result = .ok record ∧
        ((make ["fbo"] ⟨""⟩).run {} fun _ _ => .finished noisyOutput).result =
          .ok { record with info } := by
  have sameLines :
      Protocol.markedLines quietOutput.stdout = Protocol.markedLines noisyOutput.stdout := by
    decide +kernel
  exact ⟨sameLines, ordinary_output_ignored (make ["fbo"] ⟨""⟩) {} (fun _ _ => .finished quietOutput)
    (fun _ _ => .finished noisyOutput) quietOutput noisyOutput rfl ⟨_, rfl, rfl⟩ ⟨_, rfl, rfl⟩ rfl
    sameLines⟩

end ExecTest

end Verdict
