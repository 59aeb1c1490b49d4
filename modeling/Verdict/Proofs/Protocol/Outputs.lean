import Verdict.Proofs.Protocol.Merging
import Verdict.Proofs.Text.Cutting
/-! Interpreting an output in parts, more than once, and after its result lines were taken away. -/
namespace Verdict.Protocol

/-! ## Outputs in parts

The result lines of the whole are those of the first part and then those of the second; a part that
is interpreted on its own may give the record a verdict that no line has reported, but no later line
depends on it. So the whole is refused exactly when a part is, and otherwise the second part goes on
from the record that the first has left. -/

/-- The lines of an output that are shown: all but its result lines. -/
def keptLines (output : List Char) : List (List Char) :=
  (pieces '\n' output).filter fun line => !isResultLine line

private theorem resultLines_joined (first second : List Char) :
    resultLines (first ++ '\n' :: second) = resultLines first ++ resultLines second := by
  simp only [resultLines, pieces_joined, List.filter_append]

private theorem applyOutput_joined (record : Record) (first second : List Char) :
    applyOutput record (first ++ '\n' :: second) =
      applyOutput record first >>= fun next => applyOutput next second := by
  simp only [applyOutput, resultLines_joined, List.foldlM_append]

private theorem keptLines_joined (first second : List Char) :
    keptLines (first ++ '\n' :: second) = keptLines first ++ keptLines second := by
  simp only [keptLines, pieces_joined, List.filter_append]

/-! ### Verdicts that no line has reported -/

/-- A verdict that is filled in early makes no difference to one that is filled in at the end. -/
private theorem merge_withVerdict (record : Record) (report : Report) :
    withVerdict (merge (withVerdict record) report) = withVerdict (merge record report) := by
  cases report with
  | subtests pairs => rfl
  | entry name value =>
    simp only [merge, Record.enter]
    cases Field.ofName? name with
    | none => rfl
    | some field =>
      cases field with
      | text field => cases field <;> rfl
      | _ => rfl

private theorem foldl_merge_withVerdict (reports : List Report) (record : Record) :
    withVerdict (reports.foldl merge (withVerdict record)) =
      withVerdict (reports.foldl merge record) := by
  induction reports generalizing record with
  | nil => rfl
  | cons report reports ih =>
    calc withVerdict (reports.foldl merge (merge (withVerdict record) report))
      _ = withVerdict (reports.foldl merge (withVerdict (merge (withVerdict record) report))) :=
        (ih _).symm
      _ = withVerdict (reports.foldl merge (withVerdict (merge record report))) := by
        rw [merge_withVerdict]
      _ = withVerdict (reports.foldl merge (merge record report)) := ih _

/-! ### Parts of an output -/

private theorem wellFormed_of_not_refused {output : String} {record : Record}
    (accepted : ¬ Refused output record) :
    ∀ line ∈ resultLines output.toList, ¬ Malformed line := by
  intro line member malformed
  exact accepted (refused_iff.mpr ⟨line, member, malformed⟩)

theorem interpret_of_merged {output : String} {record next : Record}
    (merged : applyOutput record output.toList = .ok next) (code : Option ReturnCode) :
    interpret output code record =
      { output := String.ofList (glue '\n' (keptLines output.toList))
        record := withVerdict next } := by
  simp only [interpret, merged]
  rfl

private theorem toList_joined (first second : String) :
    (first ++ "\n" ++ second).toList = first.toList ++ '\n' :: second.toList := by
  simp

/-- Whether an output of two parts is refused can be told from each part alone. -/
theorem refused_joined_iff {first second : String} {record left right : Record} :
    Refused (first ++ "\n" ++ second) record ↔ Refused first left ∨ Refused second right := by
  rw [refused_iff, refused_iff, refused_iff, toList_joined, resultLines_joined]
  constructor
  · rintro ⟨line, member, malformed⟩
    rcases List.mem_append.mp member with early | late
    · exact .inl ⟨line, early, malformed⟩
    · exact .inr ⟨line, late, malformed⟩
  · rintro (⟨line, early, malformed⟩ | ⟨line, late, malformed⟩)
    · exact ⟨line, List.mem_append_left _ early, malformed⟩
    · exact ⟨line, List.mem_append_right _ late, malformed⟩

/-- An output of two parts, one behind a line feed, is refused exactly when one of the parts is,
whatever records they are interpreted from. Otherwise it leaves the record that the second part
leaves when it goes on from the first, and the lines that are shown are those of both parts. -/
theorem interpret_in_parts (first second : String) (record : Record)
    (code firstCode secondCode : Option ReturnCode) :
    let whole := first ++ "\n" ++ second
    let early := interpret first firstCode record
    let late := interpret second secondCode early.record
    (∀ left right : Record, Refused whole record ↔ Refused first left ∨ Refused second right) ∧
    (¬ Refused whole record →
      (interpret whole code record).record = late.record ∧
      (interpret whole code record).output =
        String.ofList (glue '\n' (keptLines first.toList ++ keptLines second.toList)) ∧
      (keptLines first.toList ≠ [] → keptLines second.toList ≠ [] →
        (interpret whole code record).output = early.output ++ "\n" ++ late.output)) := by
  intro whole early late
  refine ⟨fun left right => refused_joined_iff, fun accepted => ?_⟩
  have parts : Refused whole record ↔ Refused first record ∨ Refused second early.record :=
    refused_joined_iff
  obtain ⟨acceptedFirst, acceptedSecond⟩ := not_or.mp (mt parts.mpr accepted)
  obtain ⟨firstReports, -, firstMerged⟩ :=
    applyOutput_of_wellFormed (wellFormed_of_not_refused acceptedFirst)
  obtain ⟨secondReports, -, secondMerged⟩ :=
    applyOutput_of_wellFormed (wellFormed_of_not_refused acceptedSecond)
  have merged : applyOutput record whole.toList =
      .ok (secondReports.foldl merge (firstReports.foldl merge record)) := by
    rw [toList_joined, applyOutput_joined, firstMerged]
    exact secondMerged _
  have earlyIs := interpret_of_merged (firstMerged record) firstCode
  have lateIs := interpret_of_merged (secondMerged early.record) secondCode
  rw [interpret_of_merged merged code, toList_joined, keptLines_joined]
  refine ⟨?_, rfl, fun someFirst someSecond => ?_⟩
  · simp only [late, lateIs, early, earlyIs, foldl_merge_withVerdict]
  · rw [glue_append someFirst someSecond]
    simp [late, lateIs, early, earlyIs, String.append_assoc]

/-- The first part unsets the verdict, so it is interpreted as a failure; the second part adds a
subtest to none and leaves the verdict as it is. -/
theorem interpret_in_parts_over_unset_verdict :
    let first := "start\nPIGLIT: \x7b'result': None, 'subtest': None\x7d"
    let second := "PIGLIT: subtest \x7b'a': 'pass'\x7d\nend"
    let whole := first ++ "\n" ++ second
    let early := interpret first none (.ofStatus .skip)
    ¬ Refused whole (.ofStatus .skip) ∧ early.record.result = some .fail ∧
      (interpret whole none (.ofStatus .skip)).record =
        (interpret second none early.record).record ∧
      (interpret whole none (.ofStatus .skip)).output = "start\nend" := by
  intro first second whole early
  have accepted : ¬ Refused whole (.ofStatus .skip) := by
    have merged : applyOutput (.ofStatus .skip) whole.toList =
        .ok { subtest := some (.ofList [("a", .pass)]) } := by decide +kernel
    rintro ⟨refusal, refused⟩
    rw [merged] at refused
    cases refused
  have parts := (interpret_in_parts first second (.ofStatus .skip) none none none).2 accepted
  refine ⟨accepted, by decide +kernel, parts.1, ?_⟩
  rw [parts.2.1]
  decide +kernel

/-! ## Outputs that are repeated

What reports settle does not change when they are merged a second time: an entry says the same as
before, and the subtests that lines add are already there, in the same order. A refusal comes from
the lines alone, so it too is repeated. -/

/-! ### Refusals -/

section
variable {record : Record} {refusal : Refusal}

private theorem applyKnown_eq_error {field : Field} {value : Literal}
    (refused : applyKnown record field value = .error refusal) (other : Record) :
    applyKnown other field value = .error refusal := by
  cases field <;> exact bind_pure_eq_error_iff.mpr (bind_pure_eq_error_iff.mp refused)

private theorem applyEntry_eq_error {key : String} {value : Literal}
    (refused : applyEntry record key value = .error refusal) (other : Record) :
    applyEntry other key value = .error refusal := by
  unfold applyEntry at refused ⊢
  cases known : Field.ofName? key with
  | some field =>
    rw [known] at refused
    exact applyKnown_eq_error refused other
  | none =>
    rw [known] at refused
    exact bind_pure_eq_error_iff.mpr (bind_pure_eq_error_iff.mp refused)

/-- Why a line is refused does not depend on the record into which it is merged. -/
theorem applyLine_eq_error {line : List Char}
    (refused : applyLine record line = .error refusal) (other : Record) :
    applyLine other line = .error refusal := by
  unfold applyLine at refused ⊢
  by_cases word : subtestWord.isPrefixOf (payload line) = true
  · simp only [word, if_true] at refused ⊢
    split at refused
    · exact bind_pure_eq_error_iff.mpr (bind_pure_eq_error_iff.mp refused)
    · exact refused
  · simp only [word, Bool.false_eq_true, if_false] at refused ⊢
    split at refused
    · exact foldlM_eq_error (fun first => applyEntry_eq_error first) refused other
    · exact refused

private theorem applyOutput_eq_error {output : List Char}
    (refused : applyOutput record output = .error refusal) (other : Record) :
    applyOutput other output = .error refusal :=
  foldlM_eq_error (fun first => applyLine_eq_error first) refused other

end

/-! ### Reports merged again -/

section
variable {before after : Record} {reports : List Report}

/-- What reports have left of a record is settled in all its places. -/
theorem Settled.unique {other : Record} (settled : Settled before reports after)
    (settledToo : Settled before reports other) : after = other := by
  refine Record.ext_get (fun field => ?_) (SortedMap.ext_get? fun name => ?_)
  · by_cases isSubtest : field = .subtest
    · rw [isSubtest]
      exact settled.subtest.trans settledToo.subtest.symm
    · rw [settled.slot field isSubtest, settledToo.slot field isSubtest]
  · cases known : Field.ofName? name with
    | none => rw [settled.extra name known, settledToo.extra name known]
    | some field =>
      rw [← Field.ofName?_eq_some_iff.mp known, settled.extraKnown field,
        settledToo.extraKnown field]

/-- The subtests that reports have settled are settled by the same reports from there. -/
theorem Settled.subtest_again (settled : Settled before reports after) :
    after.subtest = if base? after reports = none ∧ added reports = [] then none
      else some (OrderedMap.ofList (reported after reports)) := by
  cases last : latest? reports Field.subtest.name with
  -- The last `subtest` entry leaves its own subtests, whatever was there before.
  | some value =>
    have same : base? after reports = base? before reports := by
      rw [base?, base?, last]
      rfl
    rw [reported, same]
    exact settled.subtest
  | none =>
    have start : base? before reports = before.subtest.map OrderedMap.entries := by
      rw [base?, last]
      rfl
    have goesOn : base? after reports = after.subtest.map OrderedMap.entries := by
      rw [base?, last]
      rfl
    cases present : after.subtest with
    | none =>
      have nothing : base? before reports = none ∧ added reports = [] := by
        have absent := settled.subtest
        rw [present] at absent
        by_contra some
        rw [if_neg some] at absent
        cases absent
      rw [goesOn, present, nothing.2]
      rfl
    | some subtests =>
      have settledSubtests : subtests = OrderedMap.ofList (reported before reports) :=
        settled.eq_reported present
      have again : OrderedMap.ofList (reported after reports) = subtests := by
        rw [reported, goesOn, present, Option.map_some, Option.getD_some, OrderedMap.ofList_append,
          OrderedMap.ofList_entries, settledSubtests, reported, OrderedMap.ofList_append,
          OrderedMap.putAll_again]
      rw [if_neg (by simp [goesOn, present]), again]

/-- What reports have settled is settled by the same reports from there. -/
theorem Settled.again (settled : Settled before reports after) : Settled after reports after where
  slot field noSubtests := by
    have slot := settled.slot field noSubtests
    unfold final at slot ⊢
    cases last : latest? reports field.name with
    | none => rfl
    | some value =>
      rw [last] at slot
      exact slot
  extra name unknown := by
    have extra := settled.extra name unknown
    cases last : latest? reports name with
    | none => rfl
    | some value =>
      rw [last] at extra
      exact extra
  extraKnown _ := rfl
  subtest := settled.subtest_again

private theorem foldl_merge_again (record : Record) (reports : List Report) :
    reports.foldl merge (reports.foldl merge record) = reports.foldl merge record :=
  (settled_merged _ reports).unique (settled_merged record reports).again

end

/-- Interpreting an output again, from the record that it has left, comes to the same record, text
and events, whether its lines are merged or refused. -/
theorem interpret_idempotent (output : String) (code codeAgain : Option ReturnCode)
    (record : Record) :
    interpret output codeAgain (interpret output code record).record =
      interpret output code record := by
  cases merged : applyOutput record output.toList with
  | error refusal =>
    have refusedAgain : ∀ other : Record, applyOutput other output.toList = .error refusal :=
      applyOutput_eq_error merged
    simp only [interpret, refusedAgain]
  | ok next =>
    have wellFormed : ∀ line ∈ resultLines output.toList, ¬ Malformed line :=
      applyOutput_accepted_iff.mp ⟨next, merged⟩
    obtain ⟨reports, -, merges⟩ := applyOutput_of_wellFormed wellFormed
    have once := interpret_of_merged (merges record) code
    have twice := interpret_of_merged (merges (interpret output code record).record) codeAgain
    rw [twice, once]
    congr 1
    rw [foldl_merge_withVerdict, foldl_merge_again]

/-! ## Result lines taken away

The lines that are kept hold no line feed, so gluing them and cutting the text again gives the same
lines: none is lost, none is joined with its neighbour, and none becomes a result line. Only where
no line is kept does the text have one more, which is empty. -/

/-! ### Outputs without result lines -/

private theorem isResultLine_iff {line : List Char} : isResultLine line = true ↔ mark <+: line :=
  List.isPrefixOf_iff_prefix

private theorem resultLines_eq_nil_iff {output : List Char} :
    resultLines output = [] ↔ ∀ line ∈ pieces '\n' output, ¬ mark <+: line := by
  simp only [resultLines, List.filter_eq_nil_iff, isResultLine_iff]

private theorem keptLines_of_plain {output : List Char} (plain : resultLines output = []) :
    keptLines output = pieces '\n' output := by
  rw [keptLines, List.filter_eq_self]
  intro line member
  rw [Bool.not_eq_true', ← Bool.not_eq_true, isResultLine_iff]
  exact resultLines_eq_nil_iff.mp plain line member

/-- An output without result lines is kept as it is, and the record is given a verdict if it lacks
one. -/
theorem interpret_of_plain {output : String} (plain : resultLines output.toList = [])
    (code : Option ReturnCode) (record : Record) :
    interpret output code record = { output, record := withVerdict record } := by
  have merged : applyOutput record output.toList = .ok record := by
    rw [applyOutput, plain]
    rfl
  rw [interpret_of_merged merged, keptLines_of_plain plain, glue_pieces, String.ofList_toList]

/-! ### Outputs that lost their result lines -/

private theorem keptLines_eq_filter (output : List Char) :
    keptLines output = (output.splitOn '\n').filter fun line => ¬ mark <+: line := by
  rw [keptLines, pieces_eq_splitOn]
  congr 1
  funext line
  rw [Bool.eq_iff_iff, Bool.not_eq_true', ← Bool.not_eq_true, isResultLine_iff, decide_eq_true_iff]

/-- Gluing the lines that are kept makes no result line. -/
private theorem resultLines_glue_keptLines (output : List Char) :
    resultLines (glue '\n' (keptLines output)) = [] := by
  cases kept : keptLines output with
  | nil => rfl
  | cons line others =>
    rw [← kept]
    have whole : pieces '\n' (glue '\n' (keptLines output)) = keptLines output := by
      refine pieces_glue (by simp [kept]) fun part member => ?_
      exact not_mem_of_mem_pieces (List.mem_filter.mp member).1
    rw [resultLines, whole, keptLines, List.filter_filter, List.filter_eq_nil_iff]
    simp

/-- An output that is accepted gives back its lines without the mark, joined as they were, in their
order and each as it was. No line of what is left has the mark, so interpreting it again, from the
record that has come out, changes neither. An output whose lines all lack the mark comes back whole,
and gives the record no more than a verdict. -/
theorem interpret_strips_result_lines (output : String) (code again : Option ReturnCode)
    (record : Record) :
    let first := interpret output code record
    (¬ Refused output record →
      first.output.toList = ['\n'].intercalate
        ((output.toList.splitOn '\n').filter fun line => ¬ mark <+: line) ∧
      (∀ line ∈ first.output.toList.splitOn '\n', ¬ mark <+: line) ∧
      interpret first.output again first.record = ⟨first.output, first.record, []⟩) ∧
    ((∀ line ∈ output.toList.splitOn '\n', ¬ mark <+: line) →
      first.output = output ∧
        first.record = { record with result := some (record.result.getD .fail) }) := by
  intro first
  constructor
  · intro accepted
    obtain ⟨reports, -, merged⟩ :=
      applyOutput_of_wellFormed (wellFormed_of_not_refused accepted)
    have firstIs : first = ⟨String.ofList (glue '\n' (keptLines output.toList)),
        withVerdict (reports.foldl merge record), []⟩ := interpret_of_merged (merged record) code
    have left : first.output.toList = glue '\n' (keptLines output.toList) := by
      rw [firstIs, String.toList_ofList]
    have plain : resultLines first.output.toList = [] := by
      rw [left]
      exact resultLines_glue_keptLines output.toList
    refine ⟨?_, ?_, ?_⟩
    · rw [left, glue_eq_intercalate, keptLines_eq_filter]
    · rw [← pieces_eq_splitOn]
      exact resultLines_eq_nil_iff.mp plain
    · rw [interpret_of_plain plain]
      -- The record that has come out has a verdict already.
      rw [firstIs]
      rfl
  · intro unmarked
    rw [← pieces_eq_splitOn] at unmarked
    have firstIs : first = ⟨output, withVerdict record, []⟩ :=
      interpret_of_plain (resultLines_eq_nil_iff.mpr unmarked) code record
    rw [firstIs]
    exact ⟨rfl, rfl⟩

/-- Two lines that would make a mark together stay apart when the line between them is taken
away. -/
theorem interpret_strips_line_between :
    let torn := "PIG\nPIGLIT: \x7b'result': 'pass'\x7d\nLIT: \x7b\x7d"
    let first := interpret torn (some 0) .empty
    ¬ Refused torn .empty ∧ first.output = "PIG\nLIT: \x7b\x7d" ∧
      interpret first.output none first.record = ⟨first.output, first.record, []⟩ ∧
      (∀ line ∈ first.output.toList.splitOn '\n', ¬ mark <+: line) ∧
      (interpret first.output none .empty).record = .ofStatus .fail := by
  intro torn first
  have accepted : ¬ Refused torn .empty := by
    have merged : applyOutput .empty torn.toList = .ok (.ofStatus .pass) := by decide +kernel
    rintro ⟨refusal, refused⟩
    rw [merged] at refused
    cases refused
  obtain ⟨stripped, unmarked, again⟩ :=
    (interpret_strips_result_lines torn (some 0) none .empty).1 accepted
  have left : first.output = "PIG\nLIT: \x7b\x7d" := by
    rw [← String.toList_inj, stripped]
    decide +kernel
  have fresh := (interpret_strips_result_lines first.output none none .empty).2 unmarked
  exact ⟨accepted, left, again, unmarked, fresh.2⟩

end Verdict.Protocol
