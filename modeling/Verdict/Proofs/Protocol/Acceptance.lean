import Verdict.Proofs.Fallible
import Verdict.Proofs.Literal.Reading
import Verdict.Protocol
/-! Which outputs the result protocol accepts, and what is left of a record when it refuses one.
Whether an entry is accepted depends on its name and value alone, never on the record that it is
merged into; so a line, and then an output, can be judged without the record that it meets. A
refusal discards all that earlier lines have merged. -/
namespace Verdict.Protocol
open Literal

/-- A value that spells a verdict. -/
def SpellsVerdict (value : Literal) : Prop :=
  ∃ status : Status, value = .plain (.text status.name)

/-- A value of the kind that a known field holds. -/
def Holds : Field → Literal → Prop
  | .result, value => SpellsVerdict value
  | .subtest, value =>
    ∃ entries, value = .mapping entries ∧ ∀ entry ∈ entries, SpellsVerdict (.plain entry.2)
  | .returncode, value =>
    ∃ code : Int, value = .plain (.int code) ∧ -0x80000000 ≤ code ∧ code < 0x80000000
  | .time, value =>
    (∃ time, value = .plain (.int time)) ∨ ∃ time, value = .plain (.float time)
  | .text _, value => ∃ text, value = .plain (.text text)

/-- An entry that can be merged into a record. A known field takes `None` or a value of its kind;
any other name takes all but mappings. -/
def EntryFits (key : String) (value : Literal) : Prop :=
  (∃ field : Field, field.name = key ∧ (value = .plain .nothing ∨ Holds field value)) ∨
    (∀ field : Field, field.name ≠ key) ∧ ∃ plain, value = .plain plain

/-- What a result line offers as a literal: its payload, or what follows the word that announces
subtests. -/
def literalOf (line : List Char) : List Char :=
  if subtestWord.isPrefixOf (payload line) then (payload line).drop subtestWord.length
  else payload line

/-- An entry that can be merged where it stands: on a line of subtests only verdicts can. -/
def FitsLine (line : List Char) (entry : String × Literal) : Prop :=
  if subtestWord.isPrefixOf (payload line) then SpellsVerdict entry.2
  else EntryFits entry.1 entry.2

/-- A result line without a literal, or with an entry of the wrong shape. -/
def Malformed (line : List Char) : Prop :=
  (∀ entries, ¬ WholeLiteral (literalOf line) entries) ∨
    ∃ entries, WholeLiteral (literalOf line) entries ∧ ∃ entry ∈ entries, ¬ FitsLine line entry

/-- Interpretation fails: merging the result lines into the record ends in a refusal. -/
def Refused (output : String) (record : Record) : Prop :=
  ∃ refusal, applyOutput record output.toList = .error refusal

/-! ### Values -/

private theorem asStatus_accepted_iff {key : String} {value : Literal} :
    (∃ status, asStatus key value = .ok status) ↔ SpellsVerdict value := by
  constructor
  · rintro ⟨status, accepted⟩
    unfold asStatus at accepted
    split at accepted
    · rename_i text
      simp only [Status.parse] at accepted
      cases named : Status.ofName? text with
      | none => simp [named] at accepted
      | some status =>
        exact ⟨status, by rw [Status.ofName?_eq_some_iff.mp named]⟩
    · cases accepted
  · rintro ⟨status, rfl⟩
    exact ⟨status, by simp [asStatus, Status.parse]⟩

private theorem asStatuses_accepted_iff {entries : List (String × Literal)} :
    (∃ statuses, asStatuses entries = .ok statuses) ↔
      ∀ entry ∈ entries, SpellsVerdict entry.2 := by
  refine mapM_accepted_iff (fun entry => ?_) entries
  rw [bind_pure_accepted_iff]
  exact asStatus_accepted_iff

private theorem asSubtests_accepted_iff {key : String} {value : Literal} :
    (∃ subtests, asSubtests key value = .ok subtests) ↔
      ∃ entries, value = .mapping entries ∧ ∀ entry ∈ entries, SpellsVerdict (.plain entry.2) := by
  cases value with
  | plain value => simp [asSubtests]
  | mapping entries =>
    simp only [asSubtests, map_accepted_iff, asStatuses_accepted_iff, List.forall_mem_map]
    simp

theorem fitsInt32_iff {code : Int} :
    fitsInt32 code = true ↔ -0x80000000 ≤ code ∧ code < 0x80000000 := by
  simp [fitsInt32]

private theorem asReturnCode_accepted_iff {key : String} {value : Literal} :
    (∃ code, asReturnCode key value = .ok code) ↔
      ∃ code : Int, value = .plain (.int code) ∧ -0x80000000 ≤ code ∧ code < 0x80000000 := by
  unfold asReturnCode
  split
  · rename_i code
    simp only [plain.injEq, Plain.int.injEq, ← fitsInt32_iff]
    split <;> simp_all
  · simp_all

private theorem asTime_accepted_iff {key : String} {value : Literal} :
    (∃ time, asTime key value = .ok time) ↔
      (∃ time, value = .plain (.int time)) ∨ ∃ time, value = .plain (.float time) := by
  unfold asTime
  split <;> simp_all

private theorem asText_accepted_iff {key : String} {value : Literal} :
    (∃ text, asText key value = .ok text) ↔ ∃ text, value = .plain (.text text) := by
  unfold asText
  split <;> simp_all

private theorem asExtra_accepted_iff {key : String} {value : Literal} :
    (∃ json, asExtra key value = .ok json) ↔ ∃ plain, value = .plain plain := by
  cases value <;> simp [asExtra]

private theorem optional_accepted_iff {α : Type} {read : Literal → Except Refusal α}
    {value : Literal} : (∃ result, optional read value = .ok result) ↔
      value = .plain .nothing ∨ ∃ result, read value = .ok result := by
  unfold optional
  split
  · simp
  · rename_i present
    rw [map_accepted_iff, or_iff_right present]

/-! ### Entries, lines and outputs -/

private theorem applyKnown_accepted_iff {record : Record} {field : Field} {value : Literal} :
    (∃ next, applyKnown record field value = .ok next) ↔
      value = .plain .nothing ∨ Holds field value := by
  cases field <;>
    simp only [applyKnown, bind_pure_accepted_iff, optional_accepted_iff, Holds,
      asStatus_accepted_iff, asSubtests_accepted_iff, asReturnCode_accepted_iff,
      asTime_accepted_iff, asText_accepted_iff]

private theorem applyEntry_accepted_iff {record : Record} {key : String} {value : Literal} :
    (∃ next, applyEntry record key value = .ok next) ↔ EntryFits key value := by
  unfold applyEntry EntryFits
  cases named : Field.ofName? key with
  | some field =>
    have name := Field.ofName?_eq_some_iff.mp named
    simp only [applyKnown_accepted_iff]
    constructor
    · exact fun takes => .inl ⟨field, name, takes⟩
    · rintro (⟨other, otherName, takes⟩ | ⟨unknown, -⟩)
      · have same := (Field.ofName?_eq_some_iff.mpr otherName).symm.trans named
        cases same
        exact takes
      · exact absurd name (unknown field)
  | none =>
    have unknown : ∀ field : Field, field.name ≠ key := by
      intro field name
      rw [Field.ofName?_eq_some_iff.mpr name] at named
      cases named
    simp only [bind_pure_accepted_iff, asExtra_accepted_iff]
    constructor
    · exact fun plain => .inr ⟨unknown, plain⟩
    · rintro (⟨field, name, -⟩ | ⟨-, plain⟩)
      · exact absurd name (unknown field)
      · exact plain

theorem applyEntries_accepted_iff {record : Record} {entries : List (String × Literal)} :
    (∃ next, applyEntries record entries = .ok next) ↔
      ∀ entry ∈ entries, EntryFits entry.1 entry.2 := by
  refine foldlM_accepted_iff ?_ entries record
  rintro record ⟨key, value⟩
  exact applyEntry_accepted_iff

private theorem applySubtests_accepted_iff {record : Record} {entries : List (String × Literal)} :
    (∃ next, applySubtests record entries = .ok next) ↔
      ∀ entry ∈ entries, SpellsVerdict entry.2 := by
  unfold applySubtests
  rw [bind_pure_accepted_iff, asStatuses_accepted_iff]

/-- A literal is merged exactly when the grammar derives it and each of its entries is merged. The
grammar gives it one list of entries only, so it does not matter which derivation is looked at. -/
private theorem literal_accepted_iff {literal : List Char}
    {merge : List (String × Literal) → Except Refusal Record} {Good : String × Literal → Prop}
    (accepted : ∀ entries, (∃ next, merge entries = .ok next) ↔ ∀ entry ∈ entries, Good entry) :
    (∃ next, (match parseMapping literal with
      | .ok entries => merge entries
      | .error refusal => .error (.literal refusal)) = .ok next) ↔
      ¬ ((∀ entries, ¬ WholeLiteral literal entries) ∨
        ∃ entries, WholeLiteral literal entries ∧ ∃ entry ∈ entries, ¬ Good entry) := by
  cases parsed : parseMapping literal with
  | error refusal =>
    have underivable : ∀ entries, ¬ WholeLiteral literal entries := by
      intro entries derived
      rw [parseMapping_eq_ok_iff.mpr derived] at parsed
      cases parsed
    simp [underivable]
  | ok entries =>
    have derived := parseMapping_eq_ok_iff.mp parsed
    have unique : ∀ other, WholeLiteral literal other → other = entries := by
      intro other derivedOther
      exact Except.ok.inj ((parseMapping_eq_ok_iff.mpr derivedOther).symm.trans parsed)
    simp only [accepted, not_or, not_forall, not_not, not_exists, not_and]
    constructor
    · intro good
      refine ⟨⟨entries, derived⟩, fun other derivedOther entry member => ?_⟩
      exact good entry (unique other derivedOther ▸ member)
    · rintro ⟨-, good⟩ entry member
      exact good entries derived entry member

/-- One line is merged unless it is malformed, whatever the record holds already. -/
theorem applyLine_accepted_iff {record : Record} {line : List Char} :
    (∃ next, applyLine record line = .ok next) ↔ ¬ Malformed line := by
  unfold applyLine Malformed literalOf FitsLine
  by_cases word : subtestWord.isPrefixOf (payload line) = true
  · simp only [word, if_true]
    exact literal_accepted_iff fun _ => applySubtests_accepted_iff
  · simp only [word]
    exact literal_accepted_iff fun _ => applyEntries_accepted_iff

/-- All lines are merged unless one of them is malformed. -/
theorem applyOutput_accepted_iff {record : Record} {output : List Char} :
    (∃ next, applyOutput record output = .ok next) ↔
      ∀ line ∈ resultLines output, ¬ Malformed line := by
  refine foldlM_accepted_iff ?_ (resultLines output) record
  intro record line
  exact applyLine_accepted_iff

theorem mem_resultLines {output line : List Char} :
    line ∈ resultLines output ↔ line ∈ pieces '\n' output ∧ mark <+: line := by
  simp [resultLines, isResultLine]

/-- Interpretation fails exactly when some result line is malformed. The record plays no part. -/
theorem refused_iff {output : String} {record : Record} :
    Refused output record ↔ ∃ line ∈ resultLines output.toList, Malformed line := by
  have accepted : (∃ next, applyOutput record output.toList = .ok next) ↔ _ :=
    applyOutput_accepted_iff
  unfold Refused
  cases merged : applyOutput record output.toList with
  | error refusal => simpa [merged] using accepted
  | ok next => simpa [merged] using accepted

/-- Interpretation applies all result lines or none. It fails exactly when some line with the mark
carries no literal or an entry of the wrong shape, from whatever record it starts; then the output
comes back as it is, and the record differs from the one before in verdict and note only. -/
theorem interpret_all_or_nothing (output : String) (code : Option ReturnCode) (record : Record) :
    (Refused output record ↔
      ∃ line ∈ pieces '\n' output.toList, mark <+: line ∧ Malformed line) ∧
    (∀ other, Refused output record ↔ Refused output other) ∧
    (Refused output record →
      (interpret output code record).output = output ∧
      (interpret output code record).record =
        { record with result := some .fail, note := some "Failed to parse result string" }) := by
  refine ⟨?_, fun other => ?_, ?_⟩
  · simp only [refused_iff, mem_resultLines, and_assoc]
  · rw [refused_iff, refused_iff]
  · rintro ⟨refusal, refused⟩
    simp [interpret, refused, refusalNote]

/-- A valid line in front of a malformed one leaves nothing behind. -/
theorem interpret_discards_valid_line :
    Refused "PIGLIT: \x7b'result': 'pass'\x7d\nPIGLIT: \x7b'time': 'late'\x7d" .empty ∧
      (interpret "PIGLIT: \x7b'result': 'pass'\x7d\nPIGLIT: \x7b'time': 'late'\x7d" (some 0)
        .empty).record = { result := some .fail, note := some "Failed to parse result string" } := by
  have refused : Refused "PIGLIT: \x7b'result': 'pass'\x7d\nPIGLIT: \x7b'time': 'late'\x7d" .empty :=
    ⟨.shape "time" .number, by decide +kernel⟩
  exact ⟨refused, ((interpret_all_or_nothing _ (some 0) .empty).2.2 refused).2⟩

end Verdict.Protocol
