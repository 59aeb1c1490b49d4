import Verdict.Event
import Verdict.Literal
import Verdict.Record
import Verdict.Status
import Verdict.Text.Basic
/-! Interpreting what a test printed. Lines that begin with the protocol mark carry result
literals; they are merged into the record one after the other and removed from the output. If any
of them is refused none is applied, and the test has failed. -/
namespace Verdict

/-! ### Refusals -/

namespace Protocol

/-- What an entry must hold. -/
inductive Shape where
  | status
  | subtests
  | integer
  | returncode
  | number
  | text
  | plain
  deriving DecidableEq

def Shape.description : Shape → String
  | .status => "a status string"
  | .subtests => "a mapping of subtest names to statuses"
  | .integer => "an integer"
  | .returncode => "an i32"
  | .number => "a number"
  | .text => "a string"
  | .plain => "a primitive value"

/-- Why a result line is refused: its payload is no mapping literal, an entry has the wrong shape,
or a text that should be a verdict is none. -/
inductive Refusal where
  | literal (refusal : Literal.Refusal)
  | shape (key : String) (expected : Shape)
  | status (key : String) (unknown : UnknownStatus)
  deriving DecidableEq

namespace Refusal

def message : Refusal → String
  | .literal refusal =>
    "invalid result literal \x60" ++ refusal.payload ++ "\x60 (at offset "
      ++ toString refusal.offset ++ ")"
  | .shape key expected => "field \x60" ++ key ++ "\x60 must be " ++ expected.description
  | .status key _ => "field \x60" ++ key ++ "\x60 has an invalid status"

/-- The events of a refusal. A mapping under an unknown key is announced before it is refused. -/
def events (refusal : Refusal) : List Event :=
  let announced := match refusal with
    | .shape key .plain =>
      [{ level := .debug, speaker := .protocol,
         message := "field \x60" ++ key ++ "\x60 is a mapping" }]
    | _ => []
  announced ++ [{ level := .debug, speaker := .protocol, message := refusal.message }]

end Refusal

end Protocol

/-! ### Entries

A known key replaces its field, `None` removes it, and an unknown key becomes an extra field if its
value is plain. -/

/-- A plain value as JSON. -/
def Plain.toJson : Plain → Json
  | .text value => .str value
  | .int value => .int value
  | .float value => .float value
  | .bool value => .bool value
  | .nothing => .null

namespace Protocol

/-- A verdict: a text that spells one. -/
def asStatus (key : String) : Literal → Except Refusal Status
  | .plain (.text text) =>
    match Status.parse text with
    | .ok status => .ok status
    | .error unknown => .error (.status key unknown)
  | _ => .error (.shape key .status)

/-- The verdicts of subtests in their order, each under its name. -/
def asStatuses (entries : List (String × Literal)) : Except Refusal (List (String × Status)) :=
  entries.mapM fun (name, value) => do return (name, ← asStatus name value)

def asSubtests (key : String) : Literal → Except Refusal (OrderedMap Status)
  | .mapping entries =>
    OrderedMap.ofList <$> asStatuses (entries.map fun (name, value) => (name, .plain value))
  | _ => .error (.shape key .subtests)

/-- A return code: an integer of 32 bits. -/
def asReturnCode (key : String) : Literal → Except Refusal ReturnCode
  | .plain (.int value) =>
    if fitsInt32 value then .ok value else .error (.shape key .returncode)
  | _ => .error (.shape key .integer)

/-- A time: any number, an integer being rounded. -/
def asTime (key : String) : Literal → Except Refusal Binary64
  | .plain (.int value) => .ok (.ofInt value)
  | .plain (.float value) => .ok value
  | _ => .error (.shape key .number)

def asText (key : String) : Literal → Except Refusal String
  | .plain (.text text) => .ok text
  | _ => .error (.shape key .text)

/-- A plain value of an extra field. -/
def asExtra (key : String) : Literal → Except Refusal Json
  | .plain value => .ok value.toJson
  | .mapping _ => .error (.shape key .plain)

/-- A value that may be `None`, which removes the field. -/
def optional {α : Type} (read : Literal → Except Refusal α) : Literal → Except Refusal (Option α)
  | .plain .nothing => .ok none
  | value => some <$> read value

/-- Merges the value of a known field. -/
def applyKnown (record : Record) (field : Field) (value : Literal) : Except Refusal Record :=
  let key := field.name
  match field with
  | .result => do return { record with result := ← optional (asStatus key) value }
  | .subtest => do return { record with subtest := ← optional (asSubtests key) value }
  | .returncode => do return { record with returncode := ← optional (asReturnCode key) value }
  | .time => do return { record with time := ← optional (asTime key) value }
  | .text field => do return record.withText field (← optional (asText key) value)

/-- Merges one entry. -/
def applyEntry (record : Record) (key : String) (value : Literal) : Except Refusal Record :=
  match Field.ofName? key with
  | some field => applyKnown record field value
  | none => do return { record with extra := record.extra.put key (← asExtra key value) }

/-- Merges entries in their order. -/
def applyEntries (record : Record) (entries : List (String × Literal)) :
    Except Refusal Record :=
  entries.foldlM (fun record (key, value) => applyEntry record key value) record

/-- Merges the verdicts of a subtest line into the subtests of a record. -/
def applySubtests (record : Record) (entries : List (String × Literal)) :
    Except Refusal Record := do
  let statuses ← asStatuses entries
  return { record with subtest := some ((record.subtest.getD .empty).putAll statuses) }

end Protocol

/-! ### Outputs -/

/-- What became of a test's output: the text to show, the record, and the events on the way. -/
structure Interpretation where
  output : String
  record : Record
  events : List Event := []
  deriving DecidableEq

/-- A way to turn the output of a test, and its return code if a process ran, into a record. -/
abbrev Interpreter := String → Option ReturnCode → Record → Interpretation

namespace Protocol

/-- The mark with which result lines begin. -/
def mark : List Char := "PIGLIT:".toList

/-- The word before the verdicts of subtests. -/
def subtestWord : List Char := "subtest".toList

/-- The note on a record whose result lines were refused. -/
def refusalNote : String := "Failed to parse result string"

def isResultLine (line : List Char) : Bool := mark.isPrefixOf line

/-- What a result line says after its mark, white space at the front removed. -/
def payload (line : List Char) : List Char := trimFront (line.drop mark.length)

/-- Merges one result line. -/
def applyLine (record : Record) (line : List Char) : Except Refusal Record :=
  let payload := payload line
  let (literal, apply) :=
    if subtestWord.isPrefixOf payload then (payload.drop subtestWord.length, applySubtests)
    else (payload, applyEntries)
  match Literal.parseMapping literal with
  | .ok entries => apply record entries
  | .error refusal => .error (.literal refusal)

/-- The result lines of an output, in order. -/
def resultLines (output : List Char) : List (List Char) :=
  (pieces '\n' output).filter isResultLine

/-- The output without its result lines. -/
def withoutResultLines (output : List Char) : List Char :=
  glue '\n' ((pieces '\n' output).filter fun line => !isResultLine line)

/-- Merges all result lines of an output. -/
def applyOutput (record : Record) (output : List Char) : Except Refusal Record :=
  (resultLines output).foldlM applyLine record

/-- A record that has a verdict: without one the test has failed. -/
def withVerdict (record : Record) : Record := { record with result := some record.status }

/-- Interprets an output by the result protocol; the return code plays no part. -/
def interpret : Interpreter := fun output _ record =>
  match applyOutput record output.toList with
  | .ok updated =>
    { output := String.ofList (withoutResultLines output.toList), record := withVerdict updated }
  | .error refusal =>
    { output, record := { record with result := some .fail, note := some refusalNote },
      events := refusal.events }

end Protocol

/-- Interprets by the return code alone: zero is a pass, anything else a failure. The output is
kept as it is. -/
def interpretReturnCode : Interpreter := fun output code record =>
  { output, record := { record with result := some (if code = some 0 then .pass else .fail) } }

end Verdict
