import Verdict.Number.Binary64
import Verdict.Text.Basic
/-! Log events and which of them are shown. An event has a level, the part of the program that
speaks, a message and named numbers, and is shown as one line that begins with its level. -/
namespace Verdict

/-! ### Events -/

/-- How serious an event is, most serious first. -/
inductive Level where
  | error
  | warning
  | info
  | debug
  | trace
  deriving DecidableEq

namespace Level

/-- The word with which a line begins. -/
def name : Level → String
  | .error => "error"
  | .warning => "warning"
  | .info => "info"
  | .debug => "debug"
  | .trace => "trace"

/-- The place of a level in a threshold: at threshold `n` the levels up to `n` are shown. -/
def rank : Level → Nat
  | .error => 1
  | .warning => 2
  | .info => 3
  | .debug => 4
  | .trace => 5

end Level

/-- The parts of the program that speak. -/
inductive Speaker where
  | exec
  | protocol
  | testCase
  | progress
  | application
  | failure
  deriving DecidableEq

/-- The name by which log settings address a part of the program. -/
def Speaker.target : Speaker → String
  | .exec => "piglit_runner::exec"
  | .protocol => "piglit_runner::protocol"
  | .testCase => "piglit_runner::test_case"
  | .progress => "piglit_runner::reporter::test_log"
  | .application => "piglit_exec::dispatch"
  | .failure => "piglit_exec::errors"

/-- A log event. -/
structure Event where
  level : Level
  speaker : Speaker
  message : String
  numbers : List (String × Nat) := []
  deriving DecidableEq

/-- An event as a line: the level, the message, then each number with its name. -/
def Event.line (event : Event) : String :=
  event.level.name ++ ": " ++ event.message
    ++ String.join (event.numbers.map fun (name, value) => " " ++ name ++ "=" ++ toString value)

/-! ### Filters

A filter is a list of directives, each of which may be for one part of the program and for events
with certain fields, and says how serious an event must be. The most specific directive that
concerns an event decides; an event that none concerns is hidden. -/

/-- A directive. Its threshold is the rank of the least serious level that it shows. -/
structure Directive where
  target : Option String := none
  fields : List String := []
  threshold : Nat
  deriving DecidableEq

namespace Directive

/-- The names of an event's fields. -/
def fieldsOf (event : Event) : List String := "message" :: event.numbers.map Prod.fst

/-- Whether a directive concerns an event: the event's target begins with the directive's, and the
event has all fields that the directive names. -/
def concerns (directive : Directive) (event : Event) : Bool :=
  (directive.target.elim true fun target => target.toList.isPrefixOf event.speaker.target.toList)
    && directive.fields.all (fieldsOf event).contains

/-- The length of the target, none being shorter than the empty one. -/
def reach (directive : Directive) : Nat := directive.target.elim 0 (·.utf8ByteSize + 1)

/-- Whether a directive decides rather than an earlier one that concerns the same event: it has the
longer target, then more fields, then those that come later in alphabetical order. Of two that do
not differ the later one decides. -/
def supersedes (directive earlier : Directive) : Bool :=
  if directive.reach ≠ earlier.reach then decide (earlier.reach < directive.reach)
  else if directive.fields.length ≠ earlier.fields.length then
    decide (earlier.fields.length < directive.fields.length)
  else !decide (directive.fields < earlier.fields)

/-- The words for thresholds. -/
def words : List (String × Nat) :=
  [("off", 0), ("error", 1), ("warn", 2), ("info", 3), ("debug", 4), ("trace", 5)]

/-- The threshold that a text stands for: a number up to five, a word in any case, or nothing,
which means errors only. -/
def threshold? (text : List Char) : Option Nat :=
  match (readNatural64? text).filter (· ≤ 5) with
  | some threshold => some threshold
  | none =>
    if text.isEmpty then some Level.error.rank
    else words.lookup (String.ofList (text.map Char.toLower))

/-- Drops the marks at the end of a list of fields, however often they are repeated. -/
def dropClosings : List Char → List Char
  | ']' :: '\x7d' :: rest => dropClosings rest
  | rest => rest

/-- The names of fields, which end with their closing marks. -/
def fields? (text : List Char) : Option (List String) :=
  match text.reverse with
  | ']' :: '\x7d' :: rest =>
    some (((pieces ',' (dropClosings rest).reverse).filter (!·.isEmpty)).map String.ofList)
  | _ => none

/-- The pieces of a text between the marks that open a list of fields. -/
def openings : List Char → List (List Char)
  | '[' :: '\x7b' :: rest => [] :: openings rest
  | [] => [[]]
  | head :: rest =>
    match openings rest with
    | [] => [[head]]
    | first :: others => (head :: first) :: others

/-- A target, with a list of fields after it or not. -/
def addressee? (text : List Char) : Option (String × List String) :=
  match openings text with
  | [target] => some (String.ofList target, [])
  | [target, fields] => (fields? fields).map (String.ofList target, ·)
  | _ => none

/-- A directive: a threshold, a target of which everything is shown, or both with an equals sign
between them. -/
def parse? (text : List Char) : Option Directive :=
  match pieces '=' text with
  | [text] =>
    match threshold? text with
    | some threshold => some { threshold }
    | none => some { target := some (String.ofList text), threshold := Level.trace.rank }
  | [addressee, threshold] => do
    let (target, fields) ← addressee? addressee
    return { target := some target, fields, threshold := ← threshold? threshold }
  | _ => none

end Directive

/-- A log filter. -/
structure LogFilter where
  directives : List Directive
  deriving DecidableEq

namespace LogFilter

/-- The filter where none is asked for. -/
def default : LogFilter := ⟨[{ threshold := Level.info.rank }]⟩

/-- The filter that a text asks for, if every directive of it can be read. -/
def parse? (text : String) : Option LogFilter :=
  if text.isEmpty then some default
  else ((pieces ',' text.toList).mapM Directive.parse?).map (⟨·⟩)

/-- The directive that decides on an event. -/
def deciding? (filter : LogFilter) (event : Event) : Option Directive :=
  (filter.directives.filter (·.concerns event)).foldl (fun
    | none, directive => some directive
    | some best, directive => if directive.supersedes best then some directive else some best) none

/-- Whether an event is shown. -/
def shows (filter : LogFilter) (event : Event) : Bool :=
  match filter.deciding? event with
  | some directive => decide (event.level.rank ≤ directive.threshold)
  | none => false

end LogFilter

end Verdict
