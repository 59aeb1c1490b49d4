import Verdict.Proofs.Fallible
import Verdict.Proofs.Record.Slots
import Verdict.Record
/-! What a mapping of fields is read as. Each known field is read on its own from the value under
its name, and all other names become extra fields; so a mapping can be judged field by field, and it
is read in one way only. -/
namespace Verdict

/-- Reads the value of one known field; `null` leaves it absent. -/
def readSlot : (field : Field) → Json → Except FieldError (Option field.Value)
  | .result, value => value.optional Json.asStatus
  | .subtest, value => value.optional Json.asSubtests
  | .returncode, value => value.optional Json.asReturnCode
  | .time, value => value.optional Json.asTime
  | .text _, value => value.optional Json.asText

/-- What a field becomes when it stands under its name in a mapping, or does not. -/
def SlotReads (field : Field) : Option Json → Option field.Value → Prop
  | none, slot => slot = none
  | some value, slot => readSlot field value = .ok slot

/-- The record that the fields of a mapping make. -/
structure Record.Reads (fields : SortedMap Json) (record : Record) : Prop where
  slot (field : Field) : SlotReads field (fields.get? field.name) (record.get field)
  extra (name : String) :
    record.extra.get? name = if Field.ofName? name = none then fields.get? name else none

/-- What a field makes of a value that is accepted. -/
def fieldMeaning : Meaning Json where
  slot field value := (readSlot field value).toOption.getD none
  extra value := value

private theorem SlotReads.unique {field : Field} {value : Option Json}
    {left right : Option field.Value}
    (leftReads : SlotReads field value left) (rightReads : SlotReads field value right) :
    left = right := by
  cases value with
  | none => exact Eq.trans leftReads (Eq.symm rightReads)
  | some value => exact Except.ok.inj (Eq.trans (Eq.symm leftReads) rightReads)

namespace Record

private theorem readField_eq (record : Record) (field : Field) (value : Json) :
    record.readField field value = record.set field <$> readSlot field value := by
  cases field <;> exact bind_pure_comp _ _

/-- A member that is accepted enters the record under its name. -/
theorem readMember_eq_ok {record next : Record} {name : String} {value : Json}
    (accepted : record.readMember name value = .ok next) :
    next = record.enter fieldMeaning name value ∧
      ∀ field : Field, field.name = name → readSlot field value = .ok (next.get field) := by
  unfold readMember at accepted
  unfold enter
  cases known : Field.ofName? name with
  | none =>
    rw [known] at accepted
    cases accepted
    exact ⟨rfl, fun field named => absurd named (Field.ofName?_eq_none_iff.mp known field)⟩
  | some field =>
    simp only [known, readField_eq] at accepted
    obtain ⟨slot, read, rfl⟩ := map_eq_ok_iff.mp accepted
    refine ⟨by simp [fieldMeaning, read, Except.toOption], fun other named => ?_⟩
    have same : other = field :=
      Field.name_injective (named.trans (Field.ofName?_eq_some_iff.mp known).symm)
    cases same
    rw [get_set_self, read]

private theorem readMember_accepted_iff {record : Record} {member : String × Json} :
    (∃ next, record.readMember member.1 member.2 = .ok next) ↔
      ∀ field : Field, field.name = member.1 → ∃ slot, readSlot field member.2 = .ok slot := by
  constructor
  · rintro ⟨next, accepted⟩ field named
    exact ⟨_, (readMember_eq_ok accepted).2 field named⟩
  · intro reads
    unfold readMember
    cases known : Field.ofName? member.1 with
    | none => exact ⟨_, rfl⟩
    | some field =>
      obtain ⟨slot, read⟩ := reads field (Field.ofName?_eq_some_iff.mp known)
      exact ⟨record.set field slot, by simp [readField_eq, read]⟩

/-- Members that are read one after the other leave in each place what the last of its name says. -/
theorem foldlM_readMember_eq_ok {members : List (String × Json)} {last : Record}
    (accepted : members.foldlM (fun record member => record.readMember member.1 member.2) empty =
      .ok last) :
    (∀ field : Field, SlotReads field (lastValue? members field.name) (last.get field)) ∧
      ∀ name, last.extra.get? name =
        if Field.ofName? name = none then lastValue? members name else none := by
  induction members using List.reverseRecOn generalizing last with
  | nil =>
    cases accepted
    refine ⟨fun field => ?_, fun name => ?_⟩
    · cases field with
      | text field => cases field <;> rfl
      | _ => rfl
    · split <;> rfl
  | append_singleton members member ih =>
    rw [List.foldlM_append, bind_eq_ok_iff] at accepted
    obtain ⟨record, earlier, accepted⟩ := accepted
    rw [List.foldlM_cons, bind_eq_ok_iff] at accepted
    obtain ⟨next, step, done⟩ := accepted
    cases done
    obtain ⟨slots, extra⟩ := ih earlier
    obtain ⟨entered, reads⟩ := readMember_eq_ok step
    refine ⟨fun field => ?_, fun name => ?_⟩
    · rw [lastValue?_concat]
      split
      · rename_i named
        exact reads field named
      · rename_i other
        rw [entered, get_enter, if_neg other]
        exact slots field
    · rw [lastValue?_concat, entered, get?_extra_enter, extra]
      by_cases unknown : Field.ofName? name = none
      · by_cases same : name = member.1
        · subst same
          simp [unknown, fieldMeaning]
        · simp [same, unknown]
      · simp [unknown]

private theorem Reads.unique {fields : SortedMap Json} {left right : Record}
    (leftReads : Reads fields left) (rightReads : Reads fields right) : left = right := by
  refine ext_get (fun field => (leftReads.slot field).unique (rightReads.slot field)) ?_
  exact SortedMap.ext_get? fun name => (leftReads.extra name).trans (rightReads.extra name).symm

/-- A mapping is read as a record exactly if each of its fields is read as it stands there. -/
theorem ofFields_eq_ok_iff {fields : SortedMap Json} {record : Record} :
    ofFields fields = .ok record ↔ Reads fields record := by
  have sound : ∀ {record}, ofFields fields = .ok record → Reads fields record := by
    intro record accepted
    obtain ⟨slots, extra⟩ := foldlM_readMember_eq_ok accepted
    simp only [lastValue?_of_distinct fields.sorted.distinct] at slots extra
    exact ⟨slots, extra⟩
  refine ⟨sound, fun reads => ?_⟩
  obtain ⟨last, accepted⟩ : ∃ last, ofFields fields = .ok last := by
    refine (foldlM_accepted_iff (fun record member => @readMember_accepted_iff record member)
      fields.entries empty).mpr ?_
    rintro ⟨name, value⟩ member field rfl
    have found : fields.get? field.name = some value :=
      (mem_iff_lookup fields.sorted.distinct).mp member
    have slot := reads.slot field
    rw [found] at slot
    exact ⟨_, slot⟩
  rw [accepted, (sound accepted).unique reads]

end Record

/-! ### Extra fields beside the known ones

Both are written into one object, so it has a name twice exactly when an extra field is called like
a known field that is present. Reading never leaves an extra field with such a name, and no change
to the known fields brings one about. -/

/-- No extra field has the name of a known one. -/
def Record.Unshadowed (record : Record) : Prop :=
  ∀ field : Field, field.name ∉ record.extra.names

/-- An object in which no two members have the same name. -/
def Json.DistinctNames (value : Json) : Prop :=
  ∃ members, value = .obj members ∧ (members.map Prod.fst).Nodup

private theorem Field.nodup_names : (Field.all.map Field.name).Nodup := by decide

namespace Record

variable {record other : Record}

theorem unshadowed_iff :
    record.Unshadowed ↔ ∀ field : Field, record.extra.get? field.name = none :=
  forall_congr' fun _ => SortedMap.get?_eq_none_iff.symm

/-- The known fields play no part in whether they are shadowed. -/
theorem Unshadowed.of_extra (clean : record.Unshadowed) (same : other.extra = record.extra) :
    other.Unshadowed := by
  intro field
  rw [same]
  exact clean field

theorem unshadowed_of_no_extra (bare : record.extra = .empty) : record.Unshadowed := by
  intro field
  rw [bare]
  exact List.not_mem_nil

theorem Reads.unshadowed {fields : SortedMap Json} (reads : Reads fields record) :
    record.Unshadowed := by
  rw [unshadowed_iff]
  intro field
  rw [reads.extra, Field.ofName?_eq_some_iff.mpr rfl]
  rfl

theorem Unshadowed.subtestRecords (clean : record.Unshadowed) {subtest : String × Record}
    (member : subtest ∈ record.subtestRecords) : subtest.2.Unshadowed := by
  obtain ⟨⟨name, status⟩, -, rfl⟩ := List.mem_map.mp member
  exact clean.of_extra rfl

/-! ### Names of members -/

/-- The known fields that are written, in their order. -/
def presentFields (record : Record) : List Field :=
  Field.all.filter fun field => (record.value? field).isSome

private theorem map_fst_members :
    record.members.map Prod.fst = record.presentFields.map Field.name ++ record.extra.names := by
  rw [members, List.map_append, presentFields, SortedMap.names]
  congr 1
  induction Field.all with
  | nil => rfl
  | cons field fields ih => cases value : record.value? field <;> simp [value, ih]

/-- A record is written with a name twice exactly when an extra field is called like a known field
that is present. -/
theorem distinctNames_toJson_iff :
    record.toJson.DistinctNames ↔
      ∀ field ∈ record.presentFields, field.name ∉ record.extra.names := by
  have known : (record.presentFields.map Field.name).Nodup :=
    Field.nodup_names.sublist (List.filter_sublist.map Field.name)
  have extra : record.extra.names.Nodup := record.extra.sorted.distinct
  constructor
  · rintro ⟨members, listedAs, distinct⟩ field written listed
    cases listedAs
    rw [map_fst_members, List.nodup_append] at distinct
    exact distinct.2.2 _ (List.mem_map_of_mem written) _ listed rfl
  · intro apart
    refine ⟨record.members, rfl, ?_⟩
    rw [map_fst_members, List.nodup_append]
    refine ⟨known, extra, ?_⟩
    rintro name written other listed rfl
    obtain ⟨field, shown, rfl⟩ := List.mem_map.mp written
    exact apart field shown listed

theorem Unshadowed.distinctNames (clean : record.Unshadowed) : record.toJson.DistinctNames :=
  distinctNames_toJson_iff.mpr fun field _ => clean field

end Record

end Verdict
