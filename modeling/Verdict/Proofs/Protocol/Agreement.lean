import Verdict.Proofs.Protocol.Merging
import Verdict.Proofs.Record.RoundTrip
/-! Two ways to the same record. The entries of a result line can be merged into an empty record, or
taken as a mapping of JSON values and read as loose fields. Both take each known field on its own
and both file all other names as extra fields; so they agree as soon as no name comes twice and no
mapping stands where only an object could be told from it. Only the order of subtests differs: a
mapping of JSON values lists them by name. -/
namespace Verdict

/-- A value of an entry as JSON, where a mapping is an object. -/
def Literal.toJson : Literal → Json
  | .plain value => value.toJson
  | .mapping entries => .object (entries.map (mapValue Plain.toJson))

namespace Protocol

/-- Entries that can stand in a JSON object, with a mapping for subtests at most: no name comes
twice, neither among the entries nor among the subtests. -/
structure Unambiguous (entries : List (String × Literal)) : Prop where
  distinct : (entries.map Prod.fst).Nodup
  mappings {name : String} {pairs : List (String × Plain)}
    (listed : (name, .mapping pairs) ∈ entries) :
    name = Field.subtest.name ∧ (pairs.map Prod.fst).Nodup

/-- The mapping of fields that has the values of these entries. -/
def fieldsOf (entries : List (String × Literal)) : SortedMap Json :=
  SortedMap.ofList (entries.map (mapValue Literal.toJson))

/-! ### Verdicts of subtests -/

private theorem mem_ofList_of_distinct {β : Type} {pairs : List (String × β)}
    (distinct : (pairs.map Prod.fst).Nodup) {pair : String × β} :
    pair ∈ (SortedMap.ofList pairs).entries ↔ pair ∈ pairs := by
  rw [mem_iff_lookup (SortedMap.ofList pairs).sorted.distinct, mem_iff_lookup distinct,
    ← lastValue?_of_distinct distinct]
  change (SortedMap.ofList pairs).get? pair.1 = _ ↔ _
  rw [SortedMap.get?_ofList]

private theorem map_fst_mapValue {α β : Type} (change : α → β) (pairs : List (String × α)) :
    (pairs.map (mapValue change)).map Prod.fst = pairs.map Prod.fst := by
  rw [List.map_map]
  rfl

private theorem asStatus_toJson_accepted_iff {value : Plain} :
    (∃ status, value.toJson.asStatus = .ok status) ↔ SpellsVerdict (.plain value) := by
  constructor
  · rintro ⟨status, accepted⟩
    cases value with
    | text name => exact ⟨status, by rw [Json.statusNamed_eq_ok accepted]⟩
    | _ => cases accepted
  · rintro ⟨status, same⟩
    cases same
    exact ⟨status, Json.asStatus_encodeStatus status⟩

/-- A verdict as a result line spells it. -/
def spelled (status : Status) : Plain := .text status.name

/-- Subtests that all spell verdicts are a list of verdicts, spelled. -/
private theorem exists_spelled {pairs : List (String × Plain)}
    (fit : ∀ pair ∈ pairs, SpellsVerdict (.plain pair.2)) :
    ∃ statuses : List (String × Status), pairs = statuses.map (mapValue spelled) := by
  induction pairs with
  | nil => exact ⟨[], rfl⟩
  | cons pair pairs ih =>
    obtain ⟨name, value⟩ := pair
    rw [List.forall_mem_cons] at fit
    obtain ⟨⟨status, same⟩, others⟩ := fit
    obtain ⟨statuses, rfl⟩ := ih others
    cases same
    exact ⟨(name, status) :: statuses, rfl⟩

private theorem verdicts_spelled (statuses : List (String × Status)) :
    verdicts ((statuses.map (mapValue spelled)).map fun (name, value) => (name, .plain value)) =
      statuses := by
  induction statuses with
  | nil => rfl
  | cons pair statuses ih =>
    unfold verdicts at ih ⊢
    have spells : verdict? (.plain (spelled pair.2)) = some pair.2 := Status.ofName?_name pair.2
    rw [List.map_cons, List.map_cons, List.filterMap_cons, ih]
    simp only [mapValue, spells, Option.map_some]

/-- Subtests that spell verdicts under distinct names are read from their object in the order of the
names. -/
theorem readSubtests_spelled {statuses : List (String × Status)}
    (distinct : (statuses.map Prod.fst).Nodup) :
    readSlot .subtest (Literal.mapping (statuses.map (mapValue spelled))).toJson =
      .ok ((meaning.slot .subtest (.mapping (statuses.map (mapValue spelled)))).map
        (sortedSlot .subtest)) := by
  have object : (Literal.mapping (statuses.map (mapValue spelled))).toJson =
      .obj ((SortedMap.ofList statuses).entries.map (mapValue encodeStatus)) := by
    have encoded : (statuses.map (mapValue spelled)).map (mapValue Plain.toJson) =
        statuses.map (mapValue encodeStatus) := by
      rw [List.map_map]
      rfl
    rw [Literal.toJson, encoded, Json.object, SortedMap.entries_ofList_mapValue]
  have merged : meaning.slot .subtest (.mapping (statuses.map (mapValue spelled))) =
      some (OrderedMap.ofList statuses) := by
    change (listed? (.mapping (statuses.map (mapValue spelled)))).map OrderedMap.ofList = _
    rw [listed?, verdicts_spelled, Option.map_some]
  rw [object, merged, Option.map_some, sortedSlot, OrderedMap.entries_ofList distinct]
  change some <$> (Json.obj _).asSubtests = _
  rw [Json.asSubtests_encoded]
  rfl

/-- An object that is read as subtests holds verdicts only; since no name comes twice, these are all
that there were. -/
theorem spellsVerdict_of_readSubtests {pairs : List (String × Plain)}
    (distinct : (pairs.map Prod.fst).Nodup) {slot : Option (OrderedMap Status)}
    (read : readSlot .subtest (Literal.mapping pairs).toJson = .ok slot) :
    ∀ pair ∈ pairs, SpellsVerdict (.plain pair.2) := by
  let members := (SortedMap.ofList (pairs.map (mapValue Plain.toJson))).entries
  have object : some <$> (Json.obj members).asSubtests = .ok slot := read
  obtain ⟨subtests, accepted, -⟩ := map_eq_ok_iff.mp object
  have all : ∃ last, members.foldlM (fun (subtests : OrderedMap Status) (member : String × Json) =>
      do return subtests.put member.1 (← member.2.asStatus)) .empty = .ok last :=
    ⟨subtests, accepted⟩
  have verdictsOnly : ∀ member ∈ members, ∃ status, member.2.asStatus = .ok status :=
    (foldlM_accepted_iff (fun _ _ => bind_pure_accepted_iff) members OrderedMap.empty).mp all
  intro pair listed
  refine asStatus_toJson_accepted_iff.mp (verdictsOnly (mapValue Plain.toJson pair) ?_)
  rw [mem_ofList_of_distinct (by rwa [map_fst_mapValue])]
  exact List.mem_map_of_mem listed

/-! ### Fields -/

/-- A plain value is read as the field that it is merged into, if it can be merged at all. -/
private theorem readSlot_plain_of_holds {field : Field} {value : Plain}
    (fits : value = .nothing ∨ Holds field (.plain value)) :
    readSlot field value.toJson =
      .ok ((meaning.slot field (.plain value)).map (sortedSlot field)) := by
  rcases fits with rfl | holds
  · cases field <;> rfl
  · cases field with
    | result =>
      obtain ⟨status, same⟩ := holds
      cases same
      change some <$> (encodeStatus status).asStatus = .ok ((Status.ofName? status.name).map _)
      rw [Json.asStatus_encodeStatus, Status.ofName?_name]
      rfl
    | subtest =>
      obtain ⟨entries, same, -⟩ := holds
      cases same
    | returncode =>
      obtain ⟨code, same, bounds⟩ := holds
      cases same
      change some <$> (Json.int code).asReturnCode = .ok (some code)
      rw [Json.asReturnCode, if_pos (fitsInt32_iff.mpr bounds)]
      rfl
    | time =>
      rcases holds with ⟨time, same⟩ | ⟨time, same⟩
      · cases same
        rfl
      · cases same
        rfl
    | text field =>
      obtain ⟨text, same⟩ := holds
      cases same
      rfl

private theorem holds_of_readSlot_plain {field : Field} {value : Plain} {slot : Option field.Value}
    (read : readSlot field value.toJson = .ok slot) :
    value = .nothing ∨ Holds field (.plain value) := by
  refine or_iff_not_imp_left.mpr fun present => ?_
  have taken : ∀ {α : Type} {readValue : Json → Except FieldError α} {slot : Option α},
      value.toJson.optional readValue = .ok slot →
        ∃ result, readValue value.toJson = .ok result := by
    intro α readValue slot read
    rcases Json.optional_eq_ok read with ⟨null, -⟩ | ⟨-, result, accepted, -⟩
    · cases value with
      | nothing => exact absurd rfl present
      | _ => cases null
    · exact ⟨result, accepted⟩
  cases field with
  | result =>
    exact asStatus_toJson_accepted_iff.mp (taken read)
  | subtest =>
    obtain ⟨subtests, accepted⟩ := taken read
    cases value <;> cases accepted
  | returncode =>
    obtain ⟨code, accepted⟩ := taken read
    obtain ⟨same, fits⟩ := Json.asReturnCode_eq_ok accepted
    cases value <;> cases same
    exact ⟨code, rfl, fitsInt32_iff.mp fits⟩
  | time =>
    obtain ⟨time, accepted⟩ := taken read
    cases value with
    | int time => exact .inl ⟨time, rfl⟩
    | float time => exact .inr ⟨time, rfl⟩
    | _ => cases accepted
  | text field =>
    obtain ⟨text, accepted⟩ := taken read
    have same := Json.asText_eq_ok accepted
    cases value <;> cases same
    exact ⟨text, rfl⟩

/-- A value that can stand in a field of a JSON object: a plain one, or for subtests a mapping that
never repeats a name. -/
def Placeable (field : Field) : Literal → Prop
  | .plain _ => True
  | .mapping pairs => field = .subtest ∧ (pairs.map Prod.fst).Nodup

private theorem Unambiguous.placeable {entries : List (String × Literal)}
    (sure : Unambiguous entries)
    {field : Field} {value : Literal} (listed : (field.name, value) ∈ entries) :
    Placeable field value := by
  cases value with
  | plain value => trivial
  | mapping pairs =>
    obtain ⟨named, distinct⟩ := sure.mappings listed
    exact ⟨Field.name_injective named, distinct⟩

private theorem readSlot_of_holds {field : Field} {value : Literal}
    (placeable : Placeable field value) (fits : value = .plain .nothing ∨ Holds field value) :
    readSlot field value.toJson = .ok ((meaning.slot field value).map (sortedSlot field)) := by
  cases value with
  | plain value => exact readSlot_plain_of_holds (fits.imp_left fun same => Literal.plain.inj same)
  | mapping pairs =>
    obtain ⟨rfl, distinct⟩ := placeable
    obtain ⟨entries, same, all⟩ := fits.resolve_left nofun
    cases same
    obtain ⟨statuses, rfl⟩ := exists_spelled all
    rw [map_fst_mapValue] at distinct
    exact readSubtests_spelled distinct

private theorem holds_of_readSlot {field : Field} {value : Literal}
    (placeable : Placeable field value)
    {slot : Option field.Value} (read : readSlot field value.toJson = .ok slot) :
    value = .plain .nothing ∨ Holds field value := by
  cases value with
  | plain value => exact (holds_of_readSlot_plain read).imp_left (congrArg Literal.plain)
  | mapping pairs =>
    obtain ⟨rfl, distinct⟩ := placeable
    exact .inr ⟨pairs, rfl, spellsVerdict_of_readSubtests distinct read⟩

/-! ### Records -/

section
variable {entries : List (String × Literal)}

private theorem get?_fieldsOf (entries : List (String × Literal)) (name : String) :
    (fieldsOf entries).get? name = (lastValue? entries name).map Literal.toJson := by
  rw [fieldsOf, SortedMap.get?_ofList, lastValue?_mapValue]

/-- Entries that are merged are entered into the record as what they mean. -/
theorem applyEntries_eq_ok {record merged : Record}
    (accepted : applyEntries record entries = .ok merged) :
    merged = record.enterAll meaning entries :=
  foldlM_eq_ok (fun _ _ _ => applyEntry_eq_ok) accepted

private theorem EntryFits.of_known {field : Field} {value : Literal}
    (fits : EntryFits field.name value) : value = .plain .nothing ∨ Holds field value := by
  rcases fits with ⟨other, named, fits⟩ | ⟨unknown, -⟩
  · cases Field.name_injective named
    exact fits
  · exact absurd rfl (unknown field)

private theorem EntryFits.of_unknown {name : String} {value : Literal} (fits : EntryFits name value)
    (unknown : Field.ofName? name = none) : meaning.extra value = value.toJson := by
  rcases fits with ⟨field, named, -⟩ | ⟨-, plain, rfl⟩
  · exact absurd named (Field.ofName?_eq_none_iff.mp unknown field)
  · rfl

/-- The fields of entries that can be merged are read as the record that they are merged into, with
its subtests in the order of their names. -/
theorem reads_fieldsOf (sure : Unambiguous entries)
    (fit : ∀ entry ∈ entries, EntryFits entry.1 entry.2) :
    Record.Reads (fieldsOf entries) (Record.empty.enterAll meaning entries).sortedCopy where
  slot field := by
    rw [get?_fieldsOf, Record.get_sortedCopy, Record.get_enterAll]
    cases last : lastValue? entries field.name with
    | none =>
      change (Record.empty.get field).map (sortedSlot field) = none
      rw [Record.get_empty, Option.map_none]
    | some value =>
      have listed := mem_of_lastValue? last
      exact readSlot_of_holds (sure.placeable listed) (fit _ listed).of_known
  extra name := by
    rw [get?_fieldsOf, Record.sortedCopy, Record.extra_set, Record.get?_extra_enterAll]
    by_cases unknown : Field.ofName? name = none
    · rw [if_pos unknown, if_pos unknown]
      cases last : lastValue? entries name with
      | none => rfl
      | some value =>
        exact congrArg some ((fit _ (mem_of_lastValue? last)).of_unknown unknown)
    · rw [if_neg unknown, if_neg unknown]
      rfl

/-- Fields are read only if every entry that they were made from can be merged. -/
theorem fit_of_ofFields (sure : Unambiguous entries) {read : Record}
    (accepted : Record.ofFields (fieldsOf entries) = .ok read) :
    ∀ entry ∈ entries, EntryFits entry.1 entry.2 := by
  have reads := Record.ofFields_eq_ok_iff.mp accepted
  rintro ⟨name, value⟩ listed
  cases known : Field.ofName? name with
  | some field =>
    obtain rfl := Field.ofName?_eq_some_iff.mp known
    have slot := reads.slot field
    rw [get?_fieldsOf, lastValue?_of_distinct sure.distinct,
      (mem_iff_lookup sure.distinct).mp listed] at slot
    exact .inl ⟨field, rfl, holds_of_readSlot (sure.placeable listed) slot⟩
  | none =>
    refine .inr ⟨Field.ofName?_eq_none_iff.mp known, ?_⟩
    cases value with
    | plain value => exact ⟨value, rfl⟩
    | mapping pairs =>
      exact absurd (sure.mappings listed).1.symm (Field.ofName?_eq_none_iff.mp known .subtest)

end

/-- Entries that never repeat a name and hold a mapping for subtests at most are merged into an
empty record exactly when the mapping of their values is read as a record, and then both are the
same record, but for the order of subtests. -/
theorem merging_agrees_with_reading (entries : List (String × Literal))
    (sure : Unambiguous entries) :
    ((∃ merged, applyEntries .empty entries = .ok merged) ↔
      ∃ read, Record.ofFields (fieldsOf entries) = .ok read) ∧
    ∀ merged read, applyEntries .empty entries = .ok merged →
      Record.ofFields (fieldsOf entries) = .ok read → merged.SortedCopy read := by
  have reads : ∀ {merged}, applyEntries .empty entries = .ok merged →
      Record.ofFields (fieldsOf entries) = .ok merged.sortedCopy := by
    intro merged accepted
    rw [applyEntries_eq_ok accepted]
    exact Record.ofFields_eq_ok_iff.mpr
      (reads_fieldsOf sure (applyEntries_accepted_iff.mp ⟨merged, accepted⟩))
  refine ⟨⟨?_, ?_⟩, ?_⟩
  · rintro ⟨merged, accepted⟩
    exact ⟨merged.sortedCopy, reads accepted⟩
  · rintro ⟨read, accepted⟩
    exact applyEntries_accepted_iff.mpr (fit_of_ofFields sure accepted)
  · intro merged read accepted acceptedToo
    have same : merged.sortedCopy = read := Except.ok.inj ((reads accepted).symm.trans acceptedToo)
    exact same ▸ merged.sortedCopy_isSortedCopy

/-- Two subtests, a time without decimals, a note that is unset and an extra field. -/
theorem merging_agrees_with_reading_of_four_entries :
    let entries : List (String × Literal) :=
      [("subtest", .mapping [("b", .text "fail"), ("a", .text "pass")]), ("time", .plain (.int 2)),
        ("note", .plain .nothing), ("speed", .plain (.bool true))]
    Unambiguous entries ∧ ∃ merged read, applyEntries .empty entries = .ok merged ∧
      Record.ofFields (fieldsOf entries) = .ok read ∧ merged.SortedCopy read ∧
      merged.subtest.map OrderedMap.names = some ["b", "a"] := by
  intro entries
  have sure : Unambiguous entries := by
    refine ⟨by decide, fun {name pairs} listed => ?_⟩
    rcases List.mem_cons.mp listed with same | others
    · cases same
      exact ⟨rfl, by decide⟩
    · simp at others
  let merged : Record :=
    { subtest := some (.ofList [("b", .fail), ("a", .pass)]), time := some (.ofInt 2)
      extra := .ofList [("speed", .bool true)] }
  have accepted : applyEntries .empty entries = .ok merged := by decide +kernel
  have agrees := merging_agrees_with_reading entries sure
  obtain ⟨read, acceptedToo⟩ := agrees.1.mp ⟨merged, accepted⟩
  exact ⟨sure, merged, read, accepted, acceptedToo, agrees.2 merged read accepted acceptedToo,
    by decide +kernel⟩

end Protocol

end Verdict
