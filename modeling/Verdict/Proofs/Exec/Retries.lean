import Verdict.Proofs.Exec.Classification
import Verdict.Proofs.Text.Decoding
/-! How often a test is started. A start that reports a spurious window resize is repeated under the
same command and overrides until one does not report it, a start fails, or none is left; what the
earlier starts left is forgotten. The report is looked for in octets, which comes to the same as
looking for it in the decoded text. -/
namespace Verdict

/-! ### Reports of a resize -/

private theorem occursIn_iff {α : Type} [DecidableEq α] {part whole : List α} :
    occursIn part whole = true ↔ part <:+: whole := by
  induction whole with
  | nil => simp [occursIn]
  | cons head rest ih => simp [occursIn, List.infix_cons_iff, ih]

/-- The octets of the text by which an output reports a spurious window resize. -/
def resizeMarkerOctets : List UInt8 := resizeMarker.toUTF8.data.toList

private theorem reportsResize_iff {output : ProcessOutput} :
    output.reportsResize = true ↔ resizeMarkerOctets <:+: output.stdout :=
  occursIn_iff

private theorem asksRepeat_iff {outcome : Outcome} :
    outcome.asksRepeat = true ↔
      ∃ output, outcome = .finished output ∧ resizeMarkerOctets <:+: output.stdout := by
  cases outcome with
  | finished output => simp [Outcome.asksRepeat, reportsResize_iff]
  | notFound => simp [Outcome.asksRepeat]
  | failed cause => simp [Outcome.asksRepeat]

private theorem resizeMarker_ascii : ∀ character ∈ resizeMarker.toList, ¬ Utf8.Wide character :=
  Utf8.narrow_of_all (by decide)

/-- The text is in the decoded output exactly when its octets are in the output. -/
theorem resizeMarker_infix_decode_iff (octets : List UInt8) :
    resizeMarker.toList <:+: Utf8.decode octets ↔ resizeMarkerOctets <:+: octets := by
  have ofCharacters : resizeMarker.toList.map (fun character => UInt8.ofNat character.toNat) =
      resizeMarkerOctets := by decide
  rw [Utf8.infix_decode_iff resizeMarker_ascii (by decide), ofCharacters]

/-! ### Starts -/

namespace Trial

/-- What starts come to, given what each of them would come to: all but the last ask to be repeated,
the last one does not unless no further start is left, and it is accepted. -/
structure Settles (launch : Launch) (outcome : Nat → Outcome) (further : Nat) (trial : Trial)
    (last : Nat) : Prop where
  bounded : last ≤ further
  outcomes : trial.outcomes = (List.range (last + 1)).map outcome
  repeated (number : Nat) (before : number < last) : (outcome number).asksRepeat = true
  ended : (outcome last).asksRepeat = false ∨ last = further
  accepted : trial.accepted = (outcome last).accept launch

variable {launch : Launch} {outcome : Nat → Outcome} {further : Nat}

/-- A start in front that asks to be repeated. -/
theorem Settles.repeat {trial : Trial} {last : Nat}
    (settles : Settles launch (fun number => outcome (number + 1)) further trial last)
    (asks : (outcome 0).asksRepeat = true) (events : List Event) :
    Settles launch outcome (further + 1)
      ⟨trial.accepted, outcome 0 :: trial.outcomes, events⟩ (last + 1) where
  bounded := Nat.succ_le_succ settles.bounded
  outcomes := by
    rw [List.range_succ_eq_map, List.map_cons, List.map_map, settles.outcomes]
    rfl
  repeated number before := by
    cases number with
    | zero => exact asks
    | succ number => exact settles.repeated number (Nat.lt_of_succ_lt_succ before)
  ended := settles.ended.imp_right (congrArg Nat.succ)
  accepted := settles.accepted

/-- Starts settle, whatever they come to. The induction is on the starts that are left, so that the
numbers of the starts begin anew with each of them. -/
theorem run_settles (launch : Launch) (host : Nat → Outcome) (earlier further : Nat) :
    ∃ last, Settles launch (fun number => host (earlier + number)) further
      (run launch host earlier further) last := by
  induction further generalizing earlier with
  | zero => exact ⟨0, Nat.le_refl 0, rfl, nofun, .inr rfl, rfl⟩
  | succ further ih =>
    cases asks : (host earlier).asksRepeat with
    | false =>
      refine ⟨0, Nat.zero_le _, ?_, nofun, .inl asks, ?_⟩ <;>
      · rw [run, asks]
        rfl
    | true =>
      obtain ⟨last, settles⟩ := ih (earlier + 1)
      have shifted : (fun number => host (earlier + 1 + number)) =
          fun number => host (earlier + (number + 1)) := by
        funext number
        rw [Nat.add_assoc, Nat.add_comm 1]
      rw [shifted] at settles
      refine ⟨last + 1, ?_⟩
      rw [run, asks]
      exact settles.repeat asks _

end Trial

namespace ExecTest

variable {test : ExecTest} {settings : Settings}

/-- The starts of a test on a host, all of one launch, and the outcome of the last one. -/
structure Started (test : ExecTest) (settings : Settings) (host : Host) (launch : Launch)
    (last : Outcome) : Prop where
  argv : launch.argv = test.effectiveCommand settings
  overrides : launch.overrides = test.overrides
  least : 1 ≤ (test.run settings host).attempts.length
  most : (test.run settings host).attempts.length ≤ 5
  attempts : (test.run settings host).attempts =
    (List.range (test.run settings host).attempts.length).map fun number =>
      ⟨launch, host launch number⟩
  repeated (number : Nat) (before : number + 1 < (test.run settings host).attempts.length) :
    ∃ output, host launch number = .finished output ∧ resizeMarkerOctets <:+: output.stdout
  outcome : last = host launch ((test.run settings host).attempts.length - 1)
  ended : (∃ cause, last = .failed cause) ∨ last = .notFound ∨
    (∃ output, last = .finished output ∧ ¬ resizeMarkerOctets <:+: output.stdout) ∨
    (test.run settings host).attempts.length = 5
  result : (test.run settings host).result = (last.accept launch).map (test.judge settings)

variable {host : Host} {launch : Launch} {last : Outcome}

theorem exists_started (host : Host) (runs : test.skipped = false) (nonempty : test.command ≠ []) :
    ∃ launch last, Started test settings host launch last := by
  obtain ⟨launch, asked⟩ := @exists_launch test settings nonempty
  obtain ⟨argv, overrides⟩ := mem_launch?_iff.mp asked
  obtain ⟨attempts, result⟩ := run_of_launch host runs nonempty asked
  obtain ⟨last, settles⟩ := Trial.run_settles launch (host launch) 0 (maxAttempts - 1)
  simp only [Nat.zero_add] at settles
  have bounded : last ≤ 4 := settles.bounded
  have count : (test.run settings host).attempts.length = last + 1 := by
    rw [attempts, settles.outcomes]
    simp
  refine ⟨launch, host launch last, argv, overrides, ?_, ?_, ?_, fun number before => ?_,
    ?_, ?_, ?_⟩
  · omega
  · omega
  · rw [count, attempts, settles.outcomes, List.map_map]
    rfl
  · exact asksRepeat_iff.mp (settles.repeated number (by omega))
  · rw [count, Nat.add_sub_cancel]
  · cases outcome : host launch last with
    | failed cause => exact .inl ⟨cause, rfl⟩
    | notFound => exact .inr (.inl rfl)
    | finished output =>
      rcases settles.ended with calm | isLast
      · rw [outcome, Outcome.asksRepeat, ← Bool.not_eq_true, reportsResize_iff] at calm
        exact .inr (.inr (.inl ⟨output, rfl, calm⟩))
      · have isFourth : last = 4 := isLast
        exact .inr (.inr (.inr (by omega)))
  · rw [result, settles.accepted]

theorem Started.getLast?_attempts (started : Started test settings host launch last) :
    (test.run settings host).attempts.getLast? = some ⟨launch, last⟩ := by
  have some : (test.run settings host).attempts.length ≠ 0 :=
    Nat.ne_of_gt (Nat.lt_of_lt_of_le Nat.one_pos started.least)
  rw [started.attempts, List.getLast?_map, List.getLast?_range, if_neg some, started.outcome]
  rfl

/-- An output that is accepted before the last start reports no resize, be it that of a process or
the one made up for a missing executable. -/
theorem Started.unmarked (started : Started test settings host launch last)
    (early : (test.run settings host).attempts.length < 5) {accepted : ProcessOutput}
    (accepts : last.accept launch = .ok accepted) :
    ¬ resizeMarkerOctets <:+: accepted.stdout := by
  rcases started.ended with ⟨cause, rfl⟩ | rfl | ⟨output, rfl, calm⟩ | isFifth
  · cases accepts
  · cases accepts
    rw [← reportsResize_iff]
    decide +kernel
  · cases accepts
    exact calm
  · omega

/-- A test that is run is started once at least and five times at most, always with the same command
and overrides. Every start but the last finished and reported a spurious window resize; the last did
not, unless it is the fifth, and it alone decides what the run returns. Of an accepted output the
octets have the report exactly when the decoded text has it, and neither has it if there could have
been a further start. -/
theorem run_retries_resizes (test : ExecTest) (settings : Settings) (host : Host)
    (runs : test.skipped = false) (nonempty : test.command ≠ []) :
    ∃ launch last, Started test settings host launch last ∧
      (∀ other : Host, (test.run settings other).attempts.getLast? =
          (test.run settings host).attempts.getLast? →
        (test.run settings other).result = (test.run settings host).result) ∧
      ∀ accepted, last.accept launch = .ok accepted →
        (resizeMarker.toList <:+: Utf8.decode accepted.stdout ↔
          resizeMarkerOctets <:+: accepted.stdout) ∧
        ((test.run settings host).attempts.length < 5 →
          ¬ resizeMarker.toList <:+: Utf8.decode accepted.stdout) := by
  obtain ⟨launch, last, started⟩ : ∃ launch last, Started test settings host launch last :=
    exists_started host runs nonempty
  refine ⟨launch, last, started, fun other same => ?_, fun accepted accepts => ?_⟩
  · obtain ⟨otherLaunch, otherLast, startedToo⟩ :
        ∃ launch last, Started test settings other launch last :=
      exists_started other runs nonempty
    rw [startedToo.getLast?_attempts, started.getLast?_attempts] at same
    cases same
    rw [startedToo.result, started.result]
  · have agree := resizeMarker_infix_decode_iff accepted.stdout
    exact ⟨agree, fun early shown => started.unmarked early accepts (agree.mp shown)⟩

/-- An output that reports a resize between octets that are no text. -/
def resizingOutput : ProcessOutput :=
  { stdout := [0xE2, 0x82] ++ resizeMarkerOctets ++ [0xFF], returncode := some 1 }

/-- An output whose report is torn by an octet that is no text. -/
def tornOutput : ProcessOutput :=
  { stdout := resizeMarkerOctets.take 13 ++ [0xFF] ++ resizeMarkerOctets.drop 13
    returncode := some 0 }

/-- A torn report is no report, so the second start is the last. -/
theorem run_retries_resizes_until_torn :
    let test := make ["fbo"] ⟨""⟩
    let host : Host := fun _ number => .finished (if number = 0 then resizingOutput else tornOutput)
    test.skipped = false ∧ test.command ≠ [] ∧ (test.run {} host).attempts.length = 2 ∧
      (test.run {} host).result = .ok (test.judge {} tornOutput) ∧
      ¬ resizeMarker.toList <:+: Utf8.decode tornOutput.stdout := by
  intro test host
  have runs : test.skipped = false := by decide
  have nonempty : test.command ≠ [] := by decide
  have twice : (test.run {} host).attempts.length = 2 := by decide +kernel
  obtain ⟨launch, last, started, -, unmarked⟩ := run_retries_resizes test {} host runs nonempty
  have second : last = .finished tornOutput := by
    rw [started.outcome, twice]
    rfl
  have returned := started.result
  rw [second] at returned
  have accepts : last.accept launch = .ok tornOutput := by
    rw [second]
    rfl
  exact ⟨runs, nonempty, twice, returned, (unmarked tornOutput accepts).2 (by omega)⟩

end ExecTest

end Verdict
