import Verdict.Proofs.Number.Numerals
import Verdict.Proofs.Record.Reading
/-! Writing a record and reading it back. Reading a mapping that a record was written as gives the
record, with its subtests in the order of their names; and a record that was read from a mapping is
written as that mapping, tidied: without the fields that are `null`, with times as decimals and each
verdict as its spelling. -/
namespace Verdict

/-! ### Values as they are visited

The members of every object are visited in the order of their names, the last value of a repeated
name staying. A value that is held in memory is visited as it is. -/

namespace Json

mutual

/-- The value as it is visited. -/
def sorted : Json → Json
  | .arr items => .arr (sortedItems items)
  | .obj members => .object (sortedMembers members)
  | value => value

def sortedItems : List Json → List Json
  | [] => []
  | item :: items => item.sorted :: sortedItems items

def sortedMembers : List (String × Json) → List (String × Json)
  | [] => []
  | (name, value) :: members => (name, value.sorted) :: sortedMembers members

end

/-- A value that can be held in memory: integers fit in 64 bits, with a sign or without, decimals
are finite, and objects list their members in the order of their names, each name once. -/
inductive Proper : Json → Prop
  | null : Proper .null
  | bool (value : Bool) : Proper (.bool value)
  | int (value : Int) (lower : -0x8000000000000000 ≤ value) (upper : value < 0x10000000000000000) :
    Proper (.int value)
  | float (value : Binary64) (finite : value.isFinite = true) : Proper (.float value)
  | str (text : String) : Proper (.str text)
  | arr (items : List Json) (proper : ∀ item ∈ items, Proper item) : Proper (.arr items)
  | obj (members : List (String × Json)) (sorted : SortedByName members)
    (proper : ∀ member ∈ members, Proper member.2) : Proper (.obj members)

private theorem sortedItems_eq_map (items : List Json) : sortedItems items = items.map sorted := by
  induction items with
  | nil => rfl
  | cons item items ih => rw [sortedItems, ih, List.map_cons]

private theorem sortedMembers_eq_map (members : List (String × Json)) :
    sortedMembers members = members.map (mapValue sorted) := by
  induction members with
  | nil => rfl
  | cons member members ih => rw [sortedMembers, ih, List.map_cons]; rfl

private theorem object_of_sorted {members : List (String × Json)} (sorted : SortedByName members) :
    object members = .obj members := by
  rw [object, SortedMap.ofList_entries ⟨members, sorted⟩]

/-- What is held in memory is visited as it is. -/
theorem Proper.sorted_eq {value : Json} (proper : value.Proper) : value.sorted = value := by
  induction proper with
  | null | bool | int | float | str => rfl
  | arr items proper ih =>
    rw [sorted, sortedItems_eq_map, List.map_congr_left ih, List.map_id']
  | obj members sorted proper ih =>
    have kept : members.map (mapValue Json.sorted) = members := by
      conv_rhs => rw [← List.map_id' members]
      exact List.map_congr_left fun member present => congrArg (member.1, ·) (ih member present)
    rw [Json.sorted, sortedMembers_eq_map, kept, object_of_sorted sorted]

end Json

/-! ### What stays and what changes -/

/-- A record as it can be held in memory and written: its time is a number, its return code has 32
bits, and no extra field has the name of a known one. -/
structure Record.Encodable (record : Record) : Prop where
  returncode : ∀ code ∈ record.returncode, -0x80000000 ≤ code ∧ code < 0x80000000
  time : ∀ time ∈ record.time, time.isFinite = true
  extraNames (field : Field) : record.extra.get? field.name = none
  extraValues : ∀ entry ∈ record.extra.entries, entry.2.Proper

/-- The same map in the order of its names. -/
def OrderedMap.SortedCopy (before after : OrderedMap Status) : Prop :=
  SortedByName after.entries ∧ ∀ name, after.get? name = before.get? name

/-- The same record, but for the order of its subtests. -/
def Record.SortedCopy (before after : Record) : Prop :=
  after = { before with subtest := after.subtest } ∧
    Option.Rel OrderedMap.SortedCopy before.subtest after.subtest

/-- A verdict by its spelling alone. -/
def tidyStatus : Json → Json
  | .obj [(name, _)] => .str name
  | value => value

/-- The value of a known field as it is written, unless it is absent. -/
def tidyField : Field → Json → Option Json
  | _, .null => none
  | .result, value => some (tidyStatus value)
  | .subtest, .obj members => some (.obj (members.map (mapValue tidyStatus)))
  | .time, .int value => some (.float (.ofInt value))
  | _, value => some value

/-- A mapping of fields as it is written. -/
def tidied (fields : SortedMap Json) : SortedMap Json :=
  fields.filterMap fun name value =>
    match Field.ofName? name with
    | some field => tidyField field value
    | none => some value

/-! ### Verdicts -/

def encodeStatus (status : Status) : Json := .str status.name

theorem Json.asStatus_encodeStatus (status : Status) :
    (encodeStatus status).asStatus = .ok status := by
  simp [encodeStatus, Json.asStatus, Json.statusNamed]

theorem Json.statusNamed_eq_ok {name : String} {status : Status}
    (accepted : Json.statusNamed name = .ok status) : name = status.name := by
  unfold Json.statusNamed at accepted
  split at accepted
  · rename_i found
    cases accepted
    exact (Status.ofName?_eq_some_iff.mp found).symm
  · cases accepted

private theorem Json.asStatus_eq_ok {value : Json} {status : Status}
    (accepted : value.asStatus = .ok status) : tidyStatus value = encodeStatus status := by
  unfold Json.asStatus at accepted
  split at accepted
  · rw [Json.statusNamed_eq_ok accepted]
    rfl
  · obtain ⟨named, spelled, alone⟩ := bind_eq_ok_iff.mp accepted
    split at alone
    · cases alone
      rw [Json.statusNamed_eq_ok spelled]
      rfl
    · cases alone
  · cases accepted
  · cases accepted

/-- Verdicts that are read one after the other are put under the names of their members. -/
private theorem Json.readStatuses_eq_ok {members : List (String × Json)}
    {start last : OrderedMap Status} (accepted : members.foldlM (fun subtests (name, value) => do
      return subtests.put name (← value.asStatus)) start = .ok last) :
    ∃ pairs, members.map (mapValue tidyStatus) = pairs.map (mapValue encodeStatus) ∧
      last = start.putAll pairs := by
  induction members generalizing start with
  | nil => exact ⟨[], rfl, (pure_eq_ok_iff.mp accepted).symm⟩
  | cons member members ih =>
    rw [List.foldlM_cons, bind_eq_ok_iff] at accepted
    obtain ⟨next, step, others⟩ := accepted
    obtain ⟨status, read, put⟩ := bind_eq_ok_iff.mp step
    cases put
    obtain ⟨pairs, written, rfl⟩ := ih others
    refine ⟨(member.1, status) :: pairs, ?_, rfl⟩
    rw [List.map_cons, List.map_cons, written, mapValue, Json.asStatus_eq_ok read]
    rfl

theorem Json.asSubtests_encoded (pairs : List (String × Status)) :
    (Json.obj (pairs.map (mapValue encodeStatus))).asSubtests = .ok (.ofList pairs) := by
  have each : ∀ start : OrderedMap Status, (pairs.map (mapValue encodeStatus)).foldlM
      (fun subtests (name, value) => do return subtests.put name (← value.asStatus)) start =
        (.ok (start.putAll pairs) : Except FieldError _) := by
    induction pairs with
    | nil => exact fun _ => rfl
    | cons pair pairs ih =>
      intro start
      rw [List.map_cons, List.foldlM_cons]
      simp only [mapValue, Json.asStatus_encodeStatus]
      exact ih _
  exact each .empty

private theorem Json.sorted_encoded (pairs : List (String × Status)) :
    (Json.obj (pairs.map (mapValue encodeStatus))).sorted =
      .obj ((SortedMap.ofList pairs).entries.map (mapValue encodeStatus)) := by
  have plain : (pairs.map (mapValue encodeStatus)).map (mapValue Json.sorted) =
      pairs.map (mapValue encodeStatus) := by
    rw [List.map_map]
    rfl
  rw [Json.sorted, Json.sortedMembers_eq_map, plain, Json.object, SortedMap.entries_ofList_mapValue]

/-- Subtests that were read from an object stand in the order of its names and are written as that
object, tidied. -/
private theorem Json.asSubtests_eq_ok {value : Json} {subtests : OrderedMap Status}
    (proper : value.Proper)
    (accepted : value.asSubtests = .ok subtests) : ∃ members, value = .obj members ∧
      SortedByName subtests.entries ∧
      members.map (mapValue tidyStatus) = subtests.entries.map (mapValue encodeStatus) := by
  unfold Json.asSubtests at accepted
  split at accepted
  · rename_i members
    obtain ⟨pairs, written, rfl⟩ := Json.readStatuses_eq_ok accepted
    cases proper with
    | obj _ sorted _ =>
    have sortedPairs : SortedByName pairs := by
      rw [← sortedByName_mapValue_iff, ← written, sortedByName_mapValue_iff]
      exact sorted
    have entries : (OrderedMap.empty.putAll pairs).entries = pairs :=
      OrderedMap.entries_ofList sortedPairs.distinct
    rw [entries]
    exact ⟨members, rfl, sortedPairs, written⟩
  · cases accepted

/-! ### Other values -/

theorem Json.asReturnCode_eq_ok {value : Json} {code : ReturnCode}
    (accepted : value.asReturnCode = .ok code) : value = .int code ∧ fitsInt32 code = true := by
  unfold Json.asReturnCode at accepted
  split at accepted
  · split at accepted
    · rename_i fits
      cases accepted
      exact ⟨rfl, fits⟩
    · cases accepted
  · cases accepted

/-- A time that was read is finite, for an integer of 64 bits is rounded to a finite number. -/
private theorem Json.asTime_eq_ok {value : Json} {time : Binary64} (proper : value.Proper)
    (accepted : value.asTime = .ok time) :
    time.isFinite = true ∧ tidyField .time value = some (.float time) := by
  cases proper with
  | int number lower upper =>
    cases accepted
    exact ⟨Binary64.isFinite_ofInt lower upper, rfl⟩
  | float number finite =>
    cases accepted
    exact ⟨finite, rfl⟩
  | _ => cases accepted

theorem Json.asText_eq_ok {value : Json} {text : String} (accepted : value.asText = .ok text) :
    value = .str text := by
  unfold Json.asText at accepted
  split at accepted <;> cases accepted
  rfl

theorem Json.optional_eq_ok {α : Type} {read : Json → Except FieldError α} {value : Json}
    {slot : Option α} (accepted : value.optional read = .ok slot) :
    (value = .null ∧ slot = none) ∨ value ≠ .null ∧ ∃ result, read value = .ok result ∧
      slot = some result := by
  unfold Json.optional at accepted
  split at accepted
  · cases accepted
    exact .inl ⟨rfl, rfl⟩
  · rename_i present
    obtain ⟨result, taken, rfl⟩ := map_eq_ok_iff.mp accepted
    exact .inr ⟨present, result, taken, rfl⟩

private theorem Json.optional_eq_ok_some {α : Type} {read : Json → Except FieldError α}
    {value : Json} {result : α} (accepted : value.optional read = .ok (some result)) :
    read value = .ok result := by
  rcases Json.optional_eq_ok accepted with ⟨-, absent⟩ | ⟨-, other, taken, same⟩
  · cases absent
  · cases same
    exact taken

/-! ### Fields -/

/-- The value of a known field that is present. -/
def encodeSlot : (field : Field) → field.Value → Json
  | .result, status => encodeStatus status
  | .subtest, subtests => .obj (subtests.entries.map (mapValue encodeStatus))
  | .returncode, code => .int code
  | .time, time => if time.isFinite then .float time else .null
  | .text _, text => .str text

private theorem value?_eq (record : Record) (field : Field) :
    record.value? field = (record.get field).map (encodeSlot field) := by
  cases field <;> rfl

/-- The value of a field after its record was written and read. -/
def sortedSlot : (field : Field) → field.Value → field.Value
  | .subtest, subtests => OrderedMap.ofList (SortedMap.ofList subtests.entries).entries
  | .result, status => status
  | .returncode, code => code
  | .time, time => time
  | .text _, text => text

private theorem readSlot_encoded {record : Record} (encodable : record.Encodable) {field : Field}
    {value : field.Value} (present : record.get field = some value) :
    readSlot field (encodeSlot field value).sorted = .ok (some (sortedSlot field value)) := by
  cases field with
  | result =>
    change some <$> (encodeStatus value).asStatus = _
    rw [Json.asStatus_encodeStatus]
    rfl
  | subtest =>
    rw [encodeSlot, Json.sorted_encoded]
    change some <$> (Json.obj _).asSubtests = _
    rw [Json.asSubtests_encoded]
    rfl
  | returncode =>
    change some <$> (Json.int value).asReturnCode = _
    have fits : fitsInt32 value = true := by
      simpa [fitsInt32] using encodable.returncode value present
    rw [Json.asReturnCode, if_pos fits]
    rfl
  | time =>
    have finite : value.isFinite = true := encodable.time value present
    rw [encodeSlot, if_pos finite]
    rfl
  | text field => rfl

/-- A field that was read from a value is written as that value, tidied. -/
private theorem encodeSlot_of_read {field : Field} {value : Json} {slot : Option field.Value}
    (proper : value.Proper) (read : readSlot field value = .ok slot) :
    slot.map (fun present => (encodeSlot field present).sorted) = tidyField field value := by
  cases field with
  | result =>
    rcases Json.optional_eq_ok read with ⟨rfl, rfl⟩ | ⟨present, status, taken, rfl⟩
    · rfl
    · have tidy : tidyField .result value = some (tidyStatus value) := by
        cases value <;> first | rfl | exact absurd rfl present
      rw [tidy, Json.asStatus_eq_ok taken]
      rfl
  | subtest =>
    rcases Json.optional_eq_ok read with ⟨rfl, rfl⟩ | ⟨-, subtests, taken, rfl⟩
    · rfl
    · obtain ⟨members, rfl, sorted, written⟩ := Json.asSubtests_eq_ok proper taken
      have inOrder := SortedMap.ofList_entries ⟨subtests.entries, sorted⟩
      rw [tidyField, written, Option.map_some, encodeSlot, Json.sorted_encoded, inOrder]
  | returncode =>
    rcases Json.optional_eq_ok read with ⟨rfl, rfl⟩ | ⟨-, code, taken, rfl⟩
    · rfl
    · rw [(Json.asReturnCode_eq_ok taken).1]
      rfl
  | time =>
    rcases Json.optional_eq_ok read with ⟨rfl, rfl⟩ | ⟨-, time, taken, rfl⟩
    · rfl
    · obtain ⟨finite, tidy⟩ := Json.asTime_eq_ok proper taken
      rw [tidy, Option.map_some, encodeSlot, if_pos finite]
      rfl
  | text field =>
    rcases Json.optional_eq_ok read with ⟨rfl, rfl⟩ | ⟨-, text, taken, rfl⟩
    · rfl
    · rw [Json.asText_eq_ok taken]
      rfl

/-! ### Records -/

private theorem lookup_fields {β : Type} (values : Field → Option β) (fields : List Field)
    (field : Field) :
    (fields.filterMap fun field => (values field).map (field.name, ·)).lookup field.name =
      if field ∈ fields then values field else none := by
  induction fields with
  | nil => rfl
  | cons first fields ih =>
    by_cases same : field = first
    · subst same
      cases found : values field with
      | none => simp [found, ih]
      | some value => simp [found]
    · have apart : field.name ≠ first.name := fun named => same (Field.name_injective named)
      cases found : values first <;>
        simp [found, ih, same, List.lookup_cons, beq_false_of_ne apart]

private theorem lookup_fields_of_unknown {β : Type} (values : Field → Option β)
    (fields : List Field) {name : String} (unknown : Field.ofName? name = none) :
    (fields.filterMap fun field => (values field).map (field.name, ·)).lookup name = none := by
  refine lookup_eq_none_of_absent fun member => ?_
  obtain ⟨pair, listed, named⟩ := List.mem_map.mp member
  obtain ⟨field, -, made⟩ := List.mem_filterMap.mp listed
  obtain ⟨value, -, rfl⟩ := Option.map_eq_some_iff.mp made
  exact Field.ofName?_eq_none_iff.mp unknown field named

namespace Record

/-- The fields that a record is written as, in the order of their names. -/
def sortedFields (record : Record) : SortedMap Json :=
  SortedMap.ofList (record.members.map (mapValue Json.sorted))

private theorem toJson_sorted (record : Record) :
    record.toJson.sorted = .obj record.sortedFields.entries := by
  rw [toJson, Json.sorted, Json.sortedMembers_eq_map]
  rfl

private theorem get?_sortedFields (record : Record) (name : String) :
    record.sortedFields.get? name = ((record.extra.get? name).or
      ((Field.all.filterMap fun field => (record.value? field).map (field.name, ·)).reverse.lookup
        name)).map Json.sorted := by
  rw [sortedFields, SortedMap.get?_ofList, lastValue?_mapValue, members, lastValue?_append,
    lastValue?_of_distinct record.extra.sorted.distinct]
  rfl

private theorem get?_sortedFields_known {record : Record} {field : Field}
    (unnamed : record.extra.get? field.name = none) :
    record.sortedFields.get? field.name =
      (record.get field).map fun present => (encodeSlot field present).sorted := by
  have listed : field ∈ Field.all.reverse := List.mem_reverse.mpr (Field.mem_all field)
  rw [get?_sortedFields, unnamed, Option.none_or, ← List.filterMap_reverse, lookup_fields,
    if_pos listed, value?_eq, Option.map_map]
  rfl

private theorem get?_sortedFields_unknown {record : Record} {name : String}
    (proper : ∀ entry ∈ record.extra.entries, entry.2.Proper)
    (unknown : Field.ofName? name = none) :
    record.sortedFields.get? name = record.extra.get? name := by
  rw [get?_sortedFields, ← List.filterMap_reverse, lookup_fields_of_unknown _ _ unknown,
    Option.or_none]
  cases found : record.extra.get? name with
  | none => rfl
  | some value =>
    have member := (mem_iff_lookup record.extra.sorted.distinct).mpr found
    rw [Option.map_some, (proper _ member).sorted_eq]

/-- The record after it was written and read. -/
def sortedCopy (record : Record) : Record :=
  record.set .subtest (record.subtest.map (sortedSlot .subtest))

theorem get_sortedCopy (record : Record) (field : Field) :
    record.sortedCopy.get field = (record.get field).map (sortedSlot field) := by
  by_cases subtest : field = .subtest
  · subst subtest
    exact get_set_self record .subtest _
  · rw [sortedCopy, get_set_of_ne .subtest subtest]
    cases field with
    | subtest => exact absurd rfl subtest
    | _ => exact Option.map_id'.symm

private theorem sortedCopy_of_sorted {record : Record}
    (sorted : ∀ subtests ∈ record.subtest, SortedByName subtests.entries) :
    record.sortedCopy = record := by
  refine ext_get (fun field => ?_) (extra_set record .subtest _)
  rw [get_sortedCopy]
  cases field with
  | subtest =>
    change record.subtest.map _ = record.subtest
    cases present : record.subtest with
    | none => rfl
    | some subtests =>
      have inOrder := SortedMap.ofList_entries ⟨subtests.entries, sorted subtests present⟩
      rw [Option.map_some, sortedSlot, inOrder, OrderedMap.ofList_entries]
  | _ => exact Option.map_id'

theorem sortedCopy_isSortedCopy (record : Record) : record.SortedCopy record.sortedCopy := by
  refine ⟨rfl, ?_⟩
  change Option.Rel _ record.subtest (record.subtest.map (sortedSlot .subtest))
  cases record.subtest with
  | none => exact .none
  | some subtests =>
    have sorted := (SortedMap.ofList subtests.entries).sorted
    have entries := OrderedMap.entries_ofList sorted.distinct
    refine .some ⟨?_, fun name => ?_⟩
    · rw [sortedSlot, entries]
      exact sorted
    · rw [sortedSlot, OrderedMap.get?, entries]
      change (SortedMap.ofList subtests.entries).get? name = _
      rw [SortedMap.get?_ofList, lastValue?_of_distinct subtests.distinct]
      rfl

/-- The fields that a record is written as make the record again. -/
theorem Encodable.reads {record : Record} (encodable : record.Encodable) :
    Reads record.sortedFields record.sortedCopy where
  slot field := by
    rw [get?_sortedFields_known (encodable.extraNames field), get_sortedCopy]
    cases present : record.get field with
    | none => rfl
    | some value => exact readSlot_encoded encodable present
  extra name := by
    change record.extra.get? name = _
    split
    · rename_i unknown
      exact (get?_sortedFields_unknown encodable.extraValues unknown).symm
    · rename_i known
      obtain ⟨field, named⟩ := Option.ne_none_iff_exists'.mp known
      rw [← Field.ofName?_eq_some_iff.mp named]
      exact encodable.extraNames field

section
variable {fields : SortedMap Json} {record : Record}
  (proper : ∀ entry ∈ fields.entries, entry.2.Proper) (reads : Reads fields record)
include proper reads

/-- A field that is present was read from a value. -/
theorem Reads.of_present (field : Field) {slot : field.Value}
    (present : record.get field = some slot) :
    ∃ value : Json, value.Proper ∧ readSlot field value = .ok (some slot) := by
  have read := reads.slot field
  rw [present] at read
  cases found : fields.get? field.name with
  | none =>
    rw [found] at read
    cases read
  | some value =>
    rw [found] at read
    exact ⟨value, proper _ ((mem_iff_lookup fields.sorted.distinct).mpr found), read⟩

private theorem Reads.tidied_slot (field : Field) :
    (record.get field).map (fun present => (encodeSlot field present).sorted) =
      (fields.get? field.name).bind (tidyField field) := by
  have read := reads.slot field
  cases found : fields.get? field.name with
  | none =>
    rw [found] at read
    rw [show record.get field = none from read]
    rfl
  | some value =>
    rw [found] at read
    have member := (mem_iff_lookup fields.sorted.distinct).mpr found
    exact encodeSlot_of_read (proper _ member) read

/-- What was read can be written. -/
theorem Reads.encodable : record.Encodable where
  returncode code present := by
    obtain ⟨value, -, read⟩ := reads.of_present proper .returncode present
    have fits := (Json.asReturnCode_eq_ok (Json.optional_eq_ok_some read)).2
    simpa [fitsInt32] using fits
  time time present := by
    obtain ⟨value, held, read⟩ := reads.of_present proper .time present
    exact (Json.asTime_eq_ok held (Json.optional_eq_ok_some read)).1
  extraNames := unshadowed_iff.mp reads.unshadowed
  extraValues entry member := by
    have found : record.extra.get? entry.1 = some entry.2 :=
      (mem_iff_lookup record.extra.sorted.distinct).mp member
    rw [reads.extra] at found
    split at found
    · exact proper entry ((mem_iff_lookup fields.sorted.distinct).mpr found)
    · cases found

private theorem Reads.subtests_sorted (subtests : OrderedMap Status)
    (present : record.subtest = some subtests) : SortedByName subtests.entries := by
  obtain ⟨value, held, read⟩ := reads.of_present proper .subtest present
  obtain ⟨members, -, sorted, -⟩ := Json.asSubtests_eq_ok held (Json.optional_eq_ok_some read)
  exact sorted

private theorem Reads.sortedFields_eq : record.sortedFields = tidied fields := by
  have encodable := reads.encodable proper
  refine SortedMap.ext_get? fun name => ?_
  rw [tidied, SortedMap.get?_filterMap]
  cases known : Field.ofName? name with
  | none =>
    rw [get?_sortedFields_unknown encodable.extraValues known, reads.extra, if_pos known]
    cases fields.get? name <;> rfl
  | some field =>
    obtain rfl := Field.ofName?_eq_some_iff.mp known
    rw [get?_sortedFields_known (encodable.extraNames field), reads.tidied_slot proper]

end

/-- Writing and reading are inverse, up to the order of subtests and to the looser spellings that
are accepted. -/
theorem toJson_ofFields_inverse :
    (∀ record : Record, record.Encodable →
      ∃ fields back, record.toJson.sorted = .obj fields.entries ∧ ofFields fields = .ok back ∧
        record.SortedCopy back) ∧
    ∀ (fields : SortedMap Json) (record : Record),
      (∀ entry ∈ fields.entries, entry.2.Proper) → ofFields fields = .ok record →
        record.toJson.sorted = .obj (tidied fields).entries ∧
          ofFields (tidied fields) = .ok record := by
  constructor
  · intro record encodable
    refine ⟨record.sortedFields, record.sortedCopy, record.toJson_sorted, ?_,
      record.sortedCopy_isSortedCopy⟩
    exact ofFields_eq_ok_iff.mpr encodable.reads
  · intro fields record proper accepted
    have reads := ofFields_eq_ok_iff.mp accepted
    have written := reads.sortedFields_eq proper
    refine ⟨by rw [toJson_sorted, written], ofFields_eq_ok_iff.mpr ?_⟩
    have again := (reads.encodable proper).reads
    rw [sortedCopy_of_sorted (reads.subtests_sorted proper), written] at again
    exact again

/-- A record with two subtests can be written and read; a mapping with a field that is `null`, a
verdict as an object and an integer time is read, and written without these. -/
theorem toJson_ofFields_inverse_of_loose_spellings :
    let record : Record := { subtest := some (.ofList [("b", .fail), ("a", .pass)]) }
    let fields : SortedMap Json :=
      ⟨[("note", .null), ("result", .obj [("pass", .null)]), ("time", .int 2)], by decide +kernel⟩
    let read : Record := { result := some .pass, time := some (.ofInt 2) }
    (record.Encodable ∧ ∃ fields back, record.toJson.sorted = .obj fields.entries ∧
      ofFields fields = .ok back ∧ record.SortedCopy back) ∧
    ((∀ entry ∈ fields.entries, entry.2.Proper) ∧ ofFields fields = .ok read ∧
      read.toJson.sorted = .obj [("result", .str "pass"), ("time", .float (.ofInt 2))] ∧
      ofFields (tidied fields) = .ok read) := by
  intro record fields read
  have encodable : record.Encodable := by
    refine ⟨fun _ present => ?_, fun _ present => ?_, fun _ => rfl, fun _ member => ?_⟩
    · cases present
    · cases present
    · cases member
  have proper : ∀ entry ∈ fields.entries, entry.2.Proper := by
    intro entry member
    rcases List.mem_cons.mp member with rfl | member
    · exact .null
    · rcases List.mem_cons.mp member with rfl | member
      · exact .obj _ (by decide +kernel) fun member only => List.mem_singleton.mp only ▸ .null
      · exact List.mem_singleton.mp member ▸ .int 2 (by decide) (by decide)
  have accepted : ofFields fields = .ok read := by decide +kernel
  obtain ⟨written, again⟩ := toJson_ofFields_inverse.2 fields read proper accepted
  have entries : (tidied fields).entries =
      [("result", .str "pass"), ("time", .float (.ofInt 2))] := by decide +kernel
  rw [entries] at written
  exact ⟨⟨encodable, toJson_ofFields_inverse.1 record encodable⟩, proper, accepted, written, again⟩

end Record

end Verdict
