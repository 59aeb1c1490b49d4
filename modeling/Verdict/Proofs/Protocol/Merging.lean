import Mathlib.Data.List.DropRight
import Verdict.Proofs.Fallible
import Verdict.Proofs.Protocol.Acceptance
import Verdict.Proofs.Record.Slots
/-! What a record says after all result lines of an output were merged. An output reports entries
and subtest verdicts in one order; the last entry under a name settles that name, a line of subtests
adds to what the last `subtest` entry left, and nothing else changes. -/
namespace Verdict.Protocol
open Literal

/-! ### What values mean -/

/-- The verdict that a value spells. -/
def verdict? : Literal → Option Status
  | .plain (.text text) => Status.ofName? text
  | _ => none

/-- The entries that spell verdicts, in their order. -/
def verdicts (entries : List (String × Literal)) : List (String × Status) :=
  entries.filterMap fun (name, value) => (verdict? value).map (name, ·)

/-- The subtests that a value lists, in their order. -/
def listed? : Literal → Option (List (String × Status))
  | .mapping entries => some (verdicts (entries.map fun (name, value) => (name, .plain value)))
  | .plain _ => none

/-- What the fields of a record make of a literal; `None` leaves a known field absent. -/
def meaning : Meaning Literal where
  slot
    | .result, value => verdict? value
    | .subtest, value => (listed? value).map OrderedMap.ofList
    | .returncode, .plain (.int code) => some code
    | .time, .plain (.int time) => some (Binary64.ofInt time)
    | .time, .plain (.float time) => some time
    | .text _, .plain (.text text) => some text
    | _, _ => none
  extra
    | .plain value => value.toJson
    | .mapping _ => .null

/-! ### What lines report -/

/-- What result lines report: an entry, or the verdicts of subtests. -/
inductive Report where
  | entry (name : String) (value : Literal)
  | subtests (pairs : List (String × Status))

/-- The reports of a result line: the entries of its literal one by one, or all its subtests. -/
def LineReports (line : List Char) (reports : List Report) : Prop :=
  ∃ entries, WholeLiteral (literalOf line) entries ∧
    reports = if subtestWord.isPrefixOf (payload line) then [.subtests (verdicts entries)]
      else entries.map fun (name, value) => .entry name value

/-- The reports of an output: those of its result lines, line after line. -/
def Reports (output : List Char) (reports : List Report) : Prop :=
  ∃ parts, List.Forall₂ LineReports (resultLines output) parts ∧ reports = parts.flatten

def Report.entry? : Report → Option (String × Literal)
  | .entry name value => some (name, value)
  | .subtests _ => none

def Report.subtests? : Report → Option (List (String × Status))
  | .entry _ _ => none
  | .subtests pairs => some pairs

/-- The report is no entry that replaces the subtests. -/
def Report.keepsSubtests : Report → Bool
  | .entry name _ => name != Field.subtest.name
  | .subtests _ => true

/-- The value of the last entry under a name. -/
def latest? (reports : List Report) (name : String) : Option Literal :=
  lastValue? (reports.filterMap Report.entry?) name

/-- What a known field is in the end: the meaning of the last entry under its name, or what it was
before if there is none. -/
def final (before : Record) (reports : List Report) (field : Field) : Option field.Value :=
  (latest? reports field.name).elim (before.get field) (meaning.slot field)

/-- The subtests that the last `subtest` entry left, or those of the start if there is none. -/
def base? (before : Record) (reports : List Report) : Option (List (String × Status)) :=
  (latest? reports Field.subtest.name).elim (before.subtest.map OrderedMap.entries) listed?

/-- The lines of subtests after the last `subtest` entry. -/
def added (reports : List Report) : List (List (String × Status)) :=
  (reports.rtakeWhile Report.keepsSubtests).filterMap Report.subtests?

/-- All subtests from the last `subtest` entry on, in the order in which they were reported. -/
def reported (before : Record) (reports : List Report) : List (String × Status) :=
  (base? before reports).getD [] ++ (added reports).flatten

/-- What a record says after an output was interpreted, by what the output reported. -/
structure LastWins (before : Record) (reports : List Report) (after : Record) : Prop where
  slot (field : Field) (noVerdict : field ≠ .result) (noSubtests : field ≠ .subtest) :
    after.get field = final before reports field
  result : after.result = some ((final before reports .result).getD .fail)
  extra (name : String) (unknown : ∀ field : Field, field.name ≠ name) :
    after.extra.get? name =
      (latest? reports name).elim (before.extra.get? name) (some ∘ meaning.extra)
  extraKnown (field : Field) : after.extra.get? field.name = before.extra.get? field.name
  subtestPresent : after.subtest.isSome ↔ (base? before reports).isSome ∨ added reports ≠ []
  subtestNames (subtests : OrderedMap Status) (present : after.subtest = some subtests) :
    subtests.names = ((reported before reports).map Prod.fst).eraseDups
  subtestVerdicts (subtests : OrderedMap Status) (present : after.subtest = some subtests)
    (name : String) : subtests.get? name = lastValue? (reported before reports) name

/-! ### Accepted values -/

private theorem asStatus_eq_ok {key : String} {value : Literal} {status : Status}
    (accepted : asStatus key value = .ok status) : verdict? value = some status := by
  unfold asStatus Status.parse at accepted
  split at accepted
  · rename_i text
    cases named : Status.ofName? text with
    | none => simp [named] at accepted
    | some other => simpa [named, verdict?] using accepted
  · cases accepted

private theorem asStatuses_eq_ok {entries : List (String × Literal)}
    {statuses : List (String × Status)}
    (accepted : asStatuses entries = .ok statuses) : verdicts entries = statuses := by
  refine mapM_eq_ok ?_ accepted
  rintro ⟨name, value⟩ result read
  obtain ⟨status, named, paired⟩ := bind_eq_ok_iff.mp read
  simp only [asStatus_eq_ok named, Option.map_some, pure_eq_ok_iff.mp paired]

private theorem asSubtests_eq_ok {key : String} {value : Literal} {subtests : OrderedMap Status}
    (accepted : asSubtests key value = .ok subtests) :
    (listed? value).map OrderedMap.ofList = some subtests := by
  cases value with
  | plain value => cases accepted
  | mapping entries =>
    obtain ⟨statuses, read, rfl⟩ := map_eq_ok_iff.mp accepted
    rw [listed?, asStatuses_eq_ok read, Option.map_some]

private theorem asReturnCode_eq_ok {key : String} {value : Literal} {code : ReturnCode}
    (accepted : asReturnCode key value = .ok code) :
    meaning.slot .returncode value = some code := by
  unfold asReturnCode at accepted
  split at accepted
  · split at accepted
    · cases accepted
      rfl
    · cases accepted
  · cases accepted

private theorem asTime_eq_ok {key : String} {value : Literal} {time : Binary64}
    (accepted : asTime key value = .ok time) : meaning.slot .time value = some time := by
  unfold asTime at accepted
  split at accepted <;> cases accepted <;> rfl

private theorem asText_eq_ok {key : String} {value : Literal} {text : String} {field : TextField}
    (accepted : asText key value = .ok text) : meaning.slot (.text field) value = some text := by
  unfold asText at accepted
  split at accepted <;> cases accepted
  rfl

/-- An optional value that is accepted changes a field to what the value means. -/
private theorem optional_change_eq_ok {α : Type} {read : Literal → Except Refusal α}
    (means : Literal → Option α) (absent : means (.plain .nothing) = none)
    (present : ∀ {value result}, read value = .ok result → means value = some result)
    {value : Literal} {change : Option α → Record} {next : Record}
    (accepted : (optional read value >>= fun result => pure (change result)) = .ok next) :
    next = change (means value) := by
  obtain ⟨result, read, changed⟩ := bind_eq_ok_iff.mp accepted
  rw [← pure_eq_ok_iff.mp changed]
  unfold optional at read
  split at read
  · cases read
    rw [absent]
  · obtain ⟨value, taken, rfl⟩ := map_eq_ok_iff.mp read
    rw [present taken]

/-! ### One step -/

private theorem applyKnown_eq_ok {record next : Record} {field : Field} {value : Literal}
    (accepted : applyKnown record field value = .ok next) :
    next = record.set field (meaning.slot field value) := by
  cases field with
  | result => exact optional_change_eq_ok (meaning.slot .result) rfl asStatus_eq_ok accepted
  | subtest => exact optional_change_eq_ok (meaning.slot .subtest) rfl asSubtests_eq_ok accepted
  | returncode =>
    exact optional_change_eq_ok (meaning.slot .returncode) rfl asReturnCode_eq_ok accepted
  | time => exact optional_change_eq_ok (meaning.slot .time) rfl asTime_eq_ok accepted
  | text field =>
    exact optional_change_eq_ok (meaning.slot (.text field)) rfl asText_eq_ok accepted

theorem applyEntry_eq_ok {record next : Record} {key : String} {value : Literal}
    (accepted : applyEntry record key value = .ok next) :
    next = record.enter meaning key value := by
  unfold applyEntry at accepted
  unfold Record.enter
  cases known : Field.ofName? key with
  | some field =>
    rw [known] at accepted
    exact applyKnown_eq_ok accepted
  | none =>
    rw [known] at accepted
    obtain ⟨json, read, changed⟩ := bind_eq_ok_iff.mp accepted
    cases value with
    | plain value =>
      cases read
      exact (pure_eq_ok_iff.mp changed).symm
    | mapping entries => cases read

/-- A record after one more report. -/
def merge (record : Record) : Report → Record
  | .entry name value => record.enter meaning name value
  | .subtests pairs =>
    { record with subtest := some ((record.subtest.getD .empty).putAll pairs) }

/-- A line that is merged changes the record by its reports, one after the other. -/
theorem applyLine_eq_ok {record next : Record} {line : List Char}
    (accepted : applyLine record line = .ok next) :
    ∃ reports, LineReports line reports ∧ next = reports.foldl merge record := by
  unfold applyLine at accepted
  unfold LineReports literalOf
  by_cases word : subtestWord.isPrefixOf (payload line) = true
  · simp only [word, if_true] at accepted ⊢
    split at accepted
    · rename_i entries parsed
      obtain ⟨statuses, read, changed⟩ := bind_eq_ok_iff.mp accepted
      refine ⟨_, ⟨entries, parseMapping_eq_ok_iff.mp parsed, rfl⟩, ?_⟩
      rw [asStatuses_eq_ok read]
      exact (pure_eq_ok_iff.mp changed).symm
    · cases accepted
  · simp only [word, Bool.false_eq_true, if_false] at accepted ⊢
    split at accepted
    · rename_i entries parsed
      refine ⟨_, ⟨entries, parseMapping_eq_ok_iff.mp parsed, rfl⟩, ?_⟩
      rw [List.foldl_map]
      exact foldlM_eq_ok (fun _ _ _ => applyEntry_eq_ok) accepted
    · cases accepted

/-- A line reports in one way only, since the grammar gives its literal one list of entries. -/
theorem LineReports.unique {line : List Char} {left right : List Report}
    (leftReports : LineReports line left) (rightReports : LineReports line right) :
    left = right := by
  obtain ⟨leftEntries, leftDerived, rfl⟩ := leftReports
  obtain ⟨rightEntries, rightDerived, rfl⟩ := rightReports
  have same := (parseMapping_eq_ok_iff.mpr leftDerived).symm.trans
    (parseMapping_eq_ok_iff.mpr rightDerived)
  cases same
  rfl

/-! ### Whole outputs -/

theorem foldlM_applyLine_eq_ok {lines : List (List Char)} {record last : Record}
    (accepted : lines.foldlM applyLine record = .ok last) :
    ∃ parts, List.Forall₂ LineReports lines parts ∧
      last = parts.flatten.foldl merge record := by
  induction lines generalizing record with
  | nil => exact ⟨[], .nil, (pure_eq_ok_iff.mp accepted).symm⟩
  | cons line lines ih =>
    rw [List.foldlM_cons, bind_eq_ok_iff] at accepted
    obtain ⟨next, first, others⟩ := accepted
    obtain ⟨reports, lineReports, rfl⟩ := applyLine_eq_ok first
    obtain ⟨parts, linesReport, rfl⟩ := ih others
    refine ⟨reports :: parts, .cons lineReports linesReport, ?_⟩
    rw [List.flatten_cons, List.foldl_append]

theorem Reports.unique {output : List Char} {left right : List Report}
    (leftReports : Reports output left) (rightReports : Reports output right) : left = right := by
  obtain ⟨leftParts, leftLines, rfl⟩ := leftReports
  obtain ⟨rightParts, rightLines, rfl⟩ := rightReports
  have same : leftParts = rightParts := by
    generalize resultLines output = lines at leftLines rightLines
    induction leftLines generalizing rightParts with
    | nil =>
      cases rightLines
      rfl
    | cons first _ ih =>
      cases rightLines with
      | cons other others => rw [first.unique other, ih _ others]
  rw [same]

/-- An output without malformed result lines changes every record by what it reports. -/
theorem applyOutput_of_wellFormed {output : List Char}
    (wellFormed : ∀ line ∈ resultLines output, ¬ Malformed line) :
    ∃ reports, Reports output reports ∧
      ∀ record, applyOutput record output = .ok (reports.foldl merge record) := by
  have merges : ∀ record, ∃ reports, Reports output reports ∧
      applyOutput record output = .ok (reports.foldl merge record) := by
    intro record
    obtain ⟨last, merged⟩ : ∃ last, applyOutput record output = .ok last :=
      applyOutput_accepted_iff.mpr wellFormed
    obtain ⟨parts, linesReport, rfl⟩ := foldlM_applyLine_eq_ok merged
    exact ⟨parts.flatten, ⟨parts, linesReport, rfl⟩, merged⟩
  obtain ⟨reports, reported, -⟩ := merges .empty
  refine ⟨reports, reported, fun record => ?_⟩
  obtain ⟨others, alsoReported, merged⟩ := merges record
  rw [merged, alsoReported.unique reported]

/-! ### What reports leave -/

/-- What merging keeps: each place of the record is settled by the reports so far. The subtests are
given as a map and not by their names and values, since a further line adds to the map. -/
structure Settled (before : Record) (reports : List Report) (after : Record) : Prop where
  slot (field : Field) (noSubtests : field ≠ .subtest) :
    after.get field = final before reports field
  extra (name : String) (unknown : Field.ofName? name = none) :
    after.extra.get? name =
      (latest? reports name).elim (before.extra.get? name) (some ∘ meaning.extra)
  extraKnown (field : Field) : after.extra.get? field.name = before.extra.get? field.name
  subtest : after.subtest = if base? before reports = none ∧ added reports = [] then none
    else some (OrderedMap.ofList (reported before reports))

private theorem latest?_entry (reports : List Report) (other : String) (value : Literal)
    (name : String) : latest? (reports ++ [.entry other value]) name =
      if name = other then some value else latest? reports name := by
  rw [latest?, List.filterMap_append]
  exact lastValue?_concat _ other value name

private theorem latest?_subtests (reports : List Report) (pairs : List (String × Status))
    (name : String) : latest? (reports ++ [.subtests pairs]) name = latest? reports name := by
  rw [latest?, List.filterMap_append]
  exact congrArg (lastValue? · name) (List.append_nil _)

private theorem final_subtests (before : Record) (reports : List Report)
    (pairs : List (String × Status)) (field : Field) :
    final before (reports ++ [.subtests pairs]) field = final before reports field := by
  rw [final, final, latest?_subtests]

theorem added_entry {name : String} (other : name ≠ Field.subtest.name) (reports : List Report)
    (value : Literal) : added (reports ++ [.entry name value]) = added reports := by
  rw [added, List.rtakeWhile_concat_pos _ _ _ (by simpa [Report.keepsSubtests] using other),
    List.filterMap_append]
  exact List.append_nil _

theorem added_subtest_entry (reports : List Report) (value : Literal) :
    added (reports ++ [.entry Field.subtest.name value]) = [] := by
  rw [added, List.rtakeWhile_concat_neg _ _ _ (by simp [Report.keepsSubtests])]
  rfl

theorem added_subtests (reports : List Report) (pairs : List (String × Status)) :
    added (reports ++ [.subtests pairs]) = added reports ++ [pairs] := by
  rw [added, List.rtakeWhile_concat_pos _ _ _ rfl, List.filterMap_append]
  rfl

theorem base?_subtests (before : Record) (reports : List Report)
    (pairs : List (String × Status)) :
    base? before (reports ++ [.subtests pairs]) = base? before reports := by
  rw [base?, base?, latest?_subtests]

theorem base?_entry {name : String} (other : name ≠ Field.subtest.name) (before : Record)
    (reports : List Report) (value : Literal) :
    base? before (reports ++ [.entry name value]) = base? before reports := by
  rw [base?, base?, latest?_entry, if_neg (Ne.symm other)]

theorem base?_subtest_entry (before : Record) (reports : List Report) (value : Literal) :
    base? before (reports ++ [.entry Field.subtest.name value]) = listed? value := by
  rw [base?, latest?_entry, if_pos rfl]
  rfl

theorem settled_nil (before : Record) : Settled before [] before where
  slot _ _ := rfl
  extra _ _ := rfl
  extraKnown _ := rfl
  subtest := by
    cases present : before.subtest with
    | none => simp [base?, latest?, lastValue?, added, present]
    | some subtests =>
      simp [base?, latest?, lastValue?, added, reported, present, OrderedMap.ofList_entries]

theorem Settled.entry {before after : Record} {reports : List Report}
    (settled : Settled before reports after) (name : String) (value : Literal) :
    Settled before (reports ++ [.entry name value]) (after.enter meaning name value) where
  slot field noSubtests := by
    rw [Record.get_enter, final, latest?_entry]
    split
    · rfl
    · exact settled.slot field noSubtests
  extra other unknown := by
    rw [Record.get?_extra_enter, latest?_entry]
    by_cases same : other = name
    · rw [if_pos ⟨same, unknown⟩, if_pos same]
      rfl
    · rw [if_neg fun both => same both.1, if_neg same]
      exact settled.extra other unknown
  extraKnown field := by
    have known : Field.ofName? field.name ≠ none := by
      rw [Field.ofName?_eq_some_iff.mpr rfl]
      exact Option.some_ne_none field
    rw [Record.get?_extra_enter, if_neg fun both => known both.2]
    exact settled.extraKnown field
  subtest := by
    have slot := Record.get_enter meaning after name value .subtest
    refine Eq.trans slot ?_
    by_cases same : Field.subtest.name = name
    -- The entry is a new base, to which no line has added yet.
    · subst same
      rw [if_pos rfl, reported, base?_subtest_entry, added_subtest_entry]
      change (listed? value).map OrderedMap.ofList = _
      cases listed? value with
      | none => rfl
      | some pairs => simp
    · rw [if_neg same, reported, base?_entry (Ne.symm same), added_entry (Ne.symm same)]
      exact settled.subtest

theorem Settled.subtests {before after : Record} {reports : List Report}
    (settled : Settled before reports after) (pairs : List (String × Status)) :
    Settled before (reports ++ [.subtests pairs])
      { after with subtest := some ((after.subtest.getD .empty).putAll pairs) } where
  slot field noSubtests := by
    rw [final_subtests, ← settled.slot field noSubtests]
    exact Record.get_set_of_ne .subtest noSubtests after _
  extra name unknown := by
    rw [latest?_subtests]
    exact settled.extra name unknown
  extraKnown := settled.extraKnown
  subtest := by
    -- A record without subtests counts as one whose lines have reported nothing.
    have reportedSoFar : after.subtest.getD .empty =
        OrderedMap.ofList (reported before reports) := by
      rw [settled.subtest]
      split
      · rename_i absent
        rw [reported, absent.1, absent.2]
        rfl
      · rfl
    have anyAdded : added (reports ++ [.subtests pairs]) ≠ [] := by
      rw [added_subtests]
      exact List.append_ne_nil_of_right_ne_nil _ (List.cons_ne_nil _ _)
    rw [if_neg fun both => anyAdded both.2]
    change some ((after.subtest.getD .empty).putAll pairs) = _
    rw [reportedSoFar, ← OrderedMap.ofList_append, reported, reported, base?_subtests,
      added_subtests, List.flatten_append, List.flatten_singleton, List.append_assoc]

/-- Merging reports one after the other settles what they say together. -/
theorem settled_merged (before : Record) (reports : List Report) :
    Settled before reports (reports.foldl merge before) := by
  induction reports using List.reverseRecOn with
  | nil => exact settled_nil before
  | append_singleton reports report ih =>
    rw [List.foldl_append]
    cases report with
    | entry name value => exact ih.entry name value
    | subtests pairs => exact ih.subtests pairs

theorem Settled.eq_reported {before after : Record} {reports : List Report}
    (settled : Settled before reports after) {subtests : OrderedMap Status}
    (present : after.subtest = some subtests) :
    subtests = OrderedMap.ofList (reported before reports) := by
  rw [settled.subtest] at present
  split at present
  · cases present
  · exact (Option.some.inj present).symm

/-- A record that reports have settled is known once it has a verdict. -/
theorem Settled.lastWins {before after : Record} {reports : List Report}
    (settled : Settled before reports after) : LastWins before reports (withVerdict after) where
  slot field noVerdict noSubtests := by
    rw [← settled.slot field noSubtests]
    exact Record.get_set_of_ne .result noVerdict after _
  result := by
    rw [← settled.slot .result (by decide)]
    rfl
  extra name unknown := settled.extra name (Field.ofName?_eq_none_iff.mpr unknown)
  extraKnown := settled.extraKnown
  subtestPresent := by
    change after.subtest.isSome ↔ _
    rw [settled.subtest]
    split
    · rename_i absent
      simp [absent.1, absent.2]
    · rename_i present
      rw [not_and_or] at present
      simpa [Option.isSome_iff_ne_none] using present
  subtestNames subtests present := by
    rw [settled.eq_reported present]
    exact OrderedMap.names_ofList _
  subtestVerdicts subtests present name := by
    rw [settled.eq_reported present]
    exact OrderedMap.get?_ofList _ name

/-- An output without malformed result lines reports in one way, and the record that comes out is
settled by those reports: the last entry of a name wins, the subtests are those from the last
`subtest` entry on, and everything that is not named stays. -/
theorem interpret_last_wins (output : String) (code : Option ReturnCode) (record : Record)
    (wellFormed : ∀ line ∈ pieces '\n' output.toList, mark <+: line → ¬ Malformed line) :
    (∃! reports, Reports output.toList reports) ∧
    ∀ reports, Reports output.toList reports →
      LastWins record reports (interpret output code record).record := by
  have accepted : ∃ next, applyOutput record output.toList = .ok next := by
    refine applyOutput_accepted_iff.mpr fun line member => ?_
    obtain ⟨piece, marked⟩ := mem_resultLines.mp member
    exact wellFormed line piece marked
  obtain ⟨next, merged⟩ := accepted
  obtain ⟨parts, linesReport, last⟩ := foldlM_applyLine_eq_ok merged
  have reports : Reports output.toList parts.flatten := ⟨parts, linesReport, rfl⟩
  refine ⟨⟨parts.flatten, reports, fun other more => more.unique reports⟩, fun other more => ?_⟩
  rw [more.unique reports, interpret, merged, last]
  exact (settled_merged record parts.flatten).lastWins

/-- A line of subtests adds to the subtests that the entry before it left, where a repeated name
keeps its place, and a note that no line mentions stays. -/
theorem interpret_last_wins_over_two_lines :
    let output := "PIGLIT: \x7b'subtest': \x7b'b': 'pass'\x7d\x7d\n"
      ++ "PIGLIT:subtest \x7b'a': 'skip', 'b': 'fail'\x7d"
    let record := (interpret output (some 0) { note := some "early" }).record
    (∀ line ∈ pieces '\n' output.toList, mark <+: line → ¬ Malformed line) ∧
      record.note = some "early" ∧ record.result = some .fail ∧
      record.subtest.map OrderedMap.names = some ["b", "a"] ∧
      (record.subtest.bind (·.get? "b")) = some .fail := by
  intro output record
  let before : Record := { note := some "early" }
  have merged : ∃ next, applyOutput before output.toList = .ok next :=
    ⟨{ before with subtest := some (.ofList [("b", .fail), ("a", .skip)]) }, by decide +kernel⟩
  have wellFormed : ∀ line ∈ pieces '\n' output.toList, mark <+: line → ¬ Malformed line :=
    fun line piece marked => applyOutput_accepted_iff.mp merged line
      (mem_resultLines.mpr ⟨piece, marked⟩)
  let reports : List Report :=
    [.entry "subtest" (.mapping [("b", .text "pass")]), .subtests [("a", .skip), ("b", .fail)]]
  have lines : resultLines output.toList =
      ["PIGLIT: \x7b'subtest': \x7b'b': 'pass'\x7d\x7d".toList,
        "PIGLIT:subtest \x7b'a': 'skip', 'b': 'fail'\x7d".toList] := by decide +kernel
  have reported : Reports output.toList reports := by
    refine ⟨[[_], [_]], ?_, rfl⟩
    rw [lines]
    refine .cons ⟨[("subtest", .mapping [("b", .text "pass")])], ?_, rfl⟩
      (.cons ⟨[("a", .plain (.text "skip")), ("b", .plain (.text "fail"))], ?_, rfl⟩ .nil)
    all_goals exact parseMapping_eq_ok_iff.mp (by decide +kernel)
  have settles : LastWins before reports record :=
    (interpret_last_wins output (some 0) before wellFormed).2 reports reported
  have note : record.get (.text .note) = some "early" :=
    settles.slot _ (by decide) (by decide)
  obtain ⟨subtests, present⟩ := Option.isSome_iff_exists.mp
    (settles.subtestPresent.mpr (.inl (by decide +kernel)))
  refine ⟨wellFormed, note, settles.result.trans rfl, ?_, ?_⟩
  · rw [present, Option.map_some, settles.subtestNames subtests present]
    decide +kernel
  · rw [present, Option.bind_some, settles.subtestVerdicts subtests present]
    decide +kernel

end Verdict.Protocol
