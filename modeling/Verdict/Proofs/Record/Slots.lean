import Verdict.Proofs.Map.Lookup
import Verdict.Record
/-! The known fields of a record as slots that are read and written alike. A named value goes into
the slot of its name or among the extra fields, and leaves everything else as it is; of several
values under one name the last stays. -/
namespace Verdict

/-- What a known field holds when it is present. -/
abbrev Field.Value : Field → Type
  | .result => Status
  | .subtest => OrderedMap Status
  | .returncode => ReturnCode
  | .time => Binary64
  | .text _ => String

/-- How values of some kind are taken: what each known field makes of a value, if the field is then
present at all, and what an extra field makes of it. -/
structure Meaning (α : Type) where
  slot : (field : Field) → α → Option field.Value
  extra : α → Json

namespace Field

theorem name_injective {left right : Field} (same : left.name = right.name) : left = right :=
  Option.some.inj ((ofName?_eq_some_iff.mpr rfl).symm.trans (ofName?_eq_some_iff.mpr same.symm))

theorem ofName?_eq_none_iff {text : String} :
    ofName? text = none ↔ ∀ field : Field, field.name ≠ text := by
  simp only [Option.eq_none_iff_forall_ne_some, ne_eq, ofName?_eq_some_iff]

end Field

namespace Record

variable {α : Type}

/-- The value of a known field. -/
def get (record : Record) : (field : Field) → Option field.Value
  | .result => record.result
  | .subtest => record.subtest
  | .returncode => record.returncode
  | .time => record.time
  | .text field => record.text field

/-- The record with another value, or none, in a known field. -/
def set (record : Record) : (field : Field) → Option field.Value → Record
  | .result, value => { record with result := value }
  | .subtest, value => { record with subtest := value }
  | .returncode, value => { record with returncode := value }
  | .time, value => { record with time := value }
  | .text field, value => record.withText field value

@[simp] theorem get_set_self (record : Record) (field : Field) (value : Option field.Value) :
    (record.set field value).get field = value := by
  cases field with
  | text field => exact (text_withText record field field value).trans (if_pos rfl)
  | _ => rfl

theorem get_set_of_ne (field : Field) {other : Field} (different : other ≠ field)
    (record : Record) (value : Option field.Value) :
    (record.set field value).get other = record.get other := by
  cases field with
  | text field =>
    cases other with
    | text other =>
      have apart : other ≠ field := fun same => different (congrArg Field.text same)
      exact (text_withText record field other value).trans (if_neg apart)
    | _ => cases field <;> rfl
  | _ => cases other with
    | text other => cases other <;> rfl
    | _ => first | rfl | exact absurd rfl different

@[simp] theorem extra_set (record : Record) (field : Field) (value : Option field.Value) :
    (record.set field value).extra = record.extra := by
  cases field with
  | text field => cases field <;> rfl
  | _ => rfl

theorem get_empty (field : Field) : empty.get field = none := by
  cases field with
  | text field => cases field <;> rfl
  | _ => rfl

/-- A record is its slots and its extra fields. -/
theorem ext_get {left right : Record} (slots : ∀ field, left.get field = right.get field)
    (extra : left.extra = right.extra) : left = right := by
  cases left
  cases right
  have result := slots .result
  have subtest := slots .subtest
  have returncode := slots .returncode
  have time := slots .time
  have info := slots (.text .info)
  have command := slots (.text .command)
  have environment := slots (.text .environment)
  have note := slots (.text .note)
  have exception := slots (.text .exception)
  have traceback := slots (.text .traceback)
  simp only [get, text] at *
  simp [*]

/-! ### Entering named values -/

/-- The record after a named value was entered. -/
def enter (meaning : Meaning α) (record : Record) (name : String) (value : α) : Record :=
  match Field.ofName? name with
  | some field => record.set field (meaning.slot field value)
  | none => { record with extra := record.extra.put name (meaning.extra value) }

theorem get_enter (meaning : Meaning α) (record : Record) (name : String) (value : α)
    (field : Field) : (record.enter meaning name value).get field =
      if field.name = name then meaning.slot field value else record.get field := by
  unfold enter
  cases known : Field.ofName? name with
  | none =>
    rw [if_neg (Field.ofName?_eq_none_iff.mp known field)]
    cases field <;> rfl
  | some other =>
    rw [Field.ofName?_eq_some_iff] at known
    by_cases same : field = other
    · cases same
      rw [if_pos known]
      exact get_set_self record field _
    · have apart : field.name ≠ name := fun named =>
        same (Field.name_injective (named.trans known.symm))
      rw [if_neg apart]
      exact get_set_of_ne other same record _

theorem get?_extra_enter (meaning : Meaning α) (record : Record) (name : String) (value : α)
    (other : String) : (record.enter meaning name value).extra.get? other =
      if other = name ∧ Field.ofName? other = none then some (meaning.extra value)
      else record.extra.get? other := by
  unfold enter
  cases known : Field.ofName? name with
  | none =>
    change (record.extra.put name (meaning.extra value)).get? other = _
    rw [SortedMap.get?_put]
    by_cases same : other = name
    · simp [same, known]
    · simp [same]
  | some field =>
    have apart : ¬ (other = name ∧ Field.ofName? other = none) := by
      rintro ⟨rfl, unknown⟩
      rw [unknown] at known
      cases known
    rw [if_neg apart]
    exact congrArg (·.get? other) (extra_set record field _)

/-- The record after named values were entered one after the other. -/
def enterAll (meaning : Meaning α) (record : Record) (values : List (String × α)) : Record :=
  values.foldl (fun record value => record.enter meaning value.1 value.2) record

private theorem enterAll_concat (meaning : Meaning α) (record : Record) (values : List (String × α))
    (value : String × α) : record.enterAll meaning (values ++ [value]) =
      (record.enterAll meaning values).enter meaning value.1 value.2 := by
  simp [enterAll]

theorem get_enterAll (meaning : Meaning α) (record : Record) (values : List (String × α))
    (field : Field) : (record.enterAll meaning values).get field =
      (lastValue? values field.name).elim (record.get field) (meaning.slot field) := by
  induction values using List.reverseRecOn with
  | nil => rfl
  | append_singleton values value ih =>
    rw [enterAll_concat, get_enter, ih, lastValue?_concat]
    split <;> rfl

theorem get?_extra_enterAll (meaning : Meaning α) (record : Record) (values : List (String × α))
    (name : String) : (record.enterAll meaning values).extra.get? name =
      if Field.ofName? name = none then
        (lastValue? values name).elim (record.extra.get? name) (some ∘ meaning.extra)
      else record.extra.get? name := by
  induction values using List.reverseRecOn with
  | nil => exact (ite_self _).symm
  | append_singleton values value ih =>
    rw [enterAll_concat, get?_extra_enter, ih, lastValue?_concat]
    by_cases unknown : Field.ofName? name = none
    · simp only [unknown, and_true, if_true]
      split <;> rfl
    · simp [unknown]

end Record

end Verdict
