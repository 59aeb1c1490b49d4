import Verdict.Json
import Verdict.Map
import Verdict.Number.Binary64
import Verdict.Status
import Verdict.Text.Quoted
/-! The result record of a test: ten known fields, any of which may be absent, and extra fields
under other names. A record with at least two subtests is written as one entry per subtest. -/
namespace Verdict

/-! ### Records -/

/-- The known fields that hold a plain text. -/
inductive TextField where
  | info
  | command
  | environment
  | note
  | exception
  | traceback
  deriving DecidableEq

/-- The known fields of a record. -/
inductive Field where
  | result
  | subtest
  | returncode
  | time
  | text (field : TextField)
  deriving DecidableEq

namespace Field

/-- Every known field once, in the order in which records are written. -/
def all : List Field :=
  [.result, .subtest, .text .info, .returncode, .text .command, .text .environment, .time,
    .text .note, .text .exception, .text .traceback]

theorem mem_all (field : Field) : field ∈ all := by
  rcases field with _ | _ | _ | _ | field
  all_goals first | decide | (cases field <;> decide)

/-- The name of a field wherever records are read or written. -/
def name : Field → String
  | .result => "result"
  | .subtest => "subtest"
  | .returncode => "returncode"
  | .time => "time"
  | .text .info => "info"
  | .text .command => "command"
  | .text .environment => "environment"
  | .text .note => "note"
  | .text .exception => "exception"
  | .text .traceback => "traceback"

/-- The field with this name; other names belong to extra fields. -/
def ofName? (text : String) : Option Field := all.find? (·.name == text)

theorem ofName?_eq_some_iff {text : String} {field : Field} :
    ofName? text = some field ↔ field.name = text := by
  constructor
  · intro found
    simpa using List.find?_some found
  · rintro rfl
    rcases field with _ | _ | _ | _ | field
    all_goals first | decide | (cases field <;> decide)

end Field

/-- A result record. -/
structure Record where
  result : Option Status := none
  subtest : Option (OrderedMap Status) := none
  info : Option String := none
  returncode : Option ReturnCode := none
  command : Option String := none
  environment : Option String := none
  time : Option Binary64 := none
  note : Option String := none
  exception : Option String := none
  traceback : Option String := none
  extra : SortedMap Json := .empty
  deriving DecidableEq

namespace Record

/-- The record in which no field is present. -/
def empty : Record := {}

/-- The record that says nothing but its verdict. -/
def ofStatus (status : Status) : Record := { result := some status }

/-- The verdict of a record; without one the test has failed. -/
def status (record : Record) : Status := record.result.getD .fail

/-- The value of a text field. -/
def text (record : Record) : TextField → Option String
  | .info => record.info
  | .command => record.command
  | .environment => record.environment
  | .note => record.note
  | .exception => record.exception
  | .traceback => record.traceback

/-- The record with another value, or none, in a text field. -/
def withText (record : Record) (field : TextField) (value : Option String) : Record :=
  match field with
  | .info => { record with info := value }
  | .command => { record with command := value }
  | .environment => { record with environment := value }
  | .note => { record with note := value }
  | .exception => { record with exception := value }
  | .traceback => { record with traceback := value }

@[simp] theorem text_withText (record : Record) (field other : TextField)
    (value : Option String) :
    (record.withText field value).text other =
      if other = field then value else record.text other := by
  cases field <;> cases other <;> rfl

/-- The subtests of a record in their order; none if it has no such field. -/
def subtests (record : Record) : List (String × Status) :=
  (record.subtest.map OrderedMap.entries).getD []

/-- Only a record with at least two subtests is written as several entries. -/
def splits (record : Record) : Bool := decide (1 < record.subtests.length)

/-- The record of each subtest: the whole record, with the verdict of the subtest. -/
def subtestRecords (record : Record) : List (String × Record) :=
  record.subtests.map fun (name, status) => (name, { record with result := some status })

end Record

/-! ### Records as JSON

The known fields come first, in a fixed order and only if present; the extra fields follow in the
order of their names. -/

/-- The JSON value of a known field, if it is present. -/
def Record.value? (record : Record) : Field → Option Json
  | .result => record.result.map fun status => .str status.name
  | .subtest => record.subtest.map fun subtests =>
      .obj (subtests.entries.map fun (name, status) => (name, .str status.name))
  | .returncode => record.returncode.map .int
  | .time => record.time.map fun time => if time.isFinite then .float time else .null
  | .text field => (record.text field).map .str

/-- The members of a record in the order in which they are written. -/
def Record.members (record : Record) : List (String × Json) :=
  Field.all.filterMap (fun field => (record.value? field).map (field.name, ·))
    ++ record.extra.entries

def Record.toJson (record : Record) : Json := .obj record.members

/-! ### Records from loose fields

The fields are visited in the order of their names and the first one of the wrong shape is reported;
`null` leaves a known field absent, and unknown fields are taken as they are. -/

/-- What a field must hold. -/
inductive Expectation where
  | status
  | subtests
  | returncode
  | time
  | text
  | nothing
  deriving DecidableEq

/-- How a refusal names what it expected. -/
def Expectation.name : Expectation → String
  | .status => "string or map"
  | .subtests => "a map"
  | .returncode => "i32"
  | .time => "f64"
  | .text => "a string"
  | .nothing => "unit"

/-- Why a mapping of fields is no record. -/
inductive FieldError where
  | wrongKind (found : Json) (expected : Expectation)
  | outOfRange (found : Int)
  | unknownStatus (name : String)
  | notOneMember
  deriving DecidableEq

/-- How a refusal names a value that it found. -/
def Json.describe : Json → String
  | .null => "null"
  | .bool true => "boolean \x60true\x60"
  | .bool false => "boolean \x60false\x60"
  | .int value => "integer \x60" ++ toString value ++ "\x60"
  | .float value => "floating point \x60" ++ jsonNumber.text value ++ "\x60"
  | .str text => "string " ++ quoted text
  | .arr _ => "sequence"
  | .obj _ => "map"

/-- The refusal of a text that is no verdict, among the fields of a record. -/
def unknownVariantMessage (name : String) : String :=
  "unknown variant \x60" ++ name ++ "\x60, expected one of "
    ++ String.intercalate ", " (Status.all.map fun status => "\x60" ++ status.name ++ "\x60")

/-- The text of a refusal. -/
def FieldError.message : FieldError → String
  | .wrongKind found expected =>
    "invalid type: " ++ found.describe ++ ", expected " ++ expected.name
  | .outOfRange found => "invalid value: " ++ (Json.int found).describe ++ ", expected i32"
  | .unknownStatus name => unknownVariantMessage name
  | .notOneMember => "invalid value: map, expected map with a single key"

namespace Json

/-- A verdict by its spelling. -/
def statusNamed (name : String) : Except FieldError Status :=
  match Status.ofName? name with
  | some status => .ok status
  | none => .error (.unknownStatus name)

/-- A verdict: its spelling, or an object whose only member has that name and the value `null`. -/
def asStatus : Json → Except FieldError Status
  | .str name => statusNamed name
  | .obj [(name, value)] => do
    let status ← statusNamed name
    if value = .null then return status else throw (.wrongKind value .nothing)
  | .obj _ => .error .notOneMember
  | found => .error (.wrongKind found .status)

/-- The verdicts of subtests. -/
def asSubtests : Json → Except FieldError (OrderedMap Status)
  | .obj members => members.foldlM (fun subtests (name, value) => do
      return subtests.put name (← value.asStatus)) .empty
  | found => .error (.wrongKind found .subtests)

/-- A return code: an integer of 32 bits. -/
def asReturnCode : Json → Except FieldError ReturnCode
  | .int value => if fitsInt32 value then .ok value else .error (.outOfRange value)
  | found => .error (.wrongKind found .returncode)

/-- A time: any number, an integer being rounded. -/
def asTime : Json → Except FieldError Binary64
  | .int value => .ok (.ofInt value)
  | .float value => .ok value
  | found => .error (.wrongKind found .time)

def asText : Json → Except FieldError String
  | .str text => .ok text
  | found => .error (.wrongKind found .text)

/-- A value that may be `null`, which stands for its absence. -/
def optional {α : Type} (read : Json → Except FieldError α) : Json → Except FieldError (Option α)
  | .null => .ok none
  | value => some <$> read value

end Json

namespace Record

/-- Reads a known field. -/
def readField (record : Record) (field : Field) (value : Json) : Except FieldError Record :=
  match field with
  | .result => do return { record with result := ← value.optional Json.asStatus }
  | .subtest => do return { record with subtest := ← value.optional Json.asSubtests }
  | .returncode => do return { record with returncode := ← value.optional Json.asReturnCode }
  | .time => do return { record with time := ← value.optional Json.asTime }
  | .text field => do return record.withText field (← value.optional Json.asText)

/-- Reads one member of a mapping: a known field, or an extra one. -/
def readMember (record : Record) (name : String) (value : Json) : Except FieldError Record :=
  match Field.ofName? name with
  | some field => record.readField field value
  | none => .ok { record with extra := record.extra.put name value }

/-- The record with these fields, or why there is none. -/
def ofFields (fields : SortedMap Json) : Except FieldError Record :=
  fields.entries.foldlM (fun record (name, value) => record.readMember name value) empty

end Record

end Verdict
