import Verdict.Fault
/-! The command line. Options and flags come first, in any order; the command of the test follows
after `--`, unless it is given as one text. An option that waits for its value is checked as soon
as the next option or flag takes effect, so of two mistakes the one that takes effect first is
reported; a word that is unknown is reported at once. -/
namespace Verdict

/-- The options that take a value. -/
inductive ValueOption where
  | name
  | override
  | command
  | config
  | platform
  | binDirectory
  deriving DecidableEq

/-- The options that take none. -/
inductive Flag where
  | dryRun
  | verbose
  | valgrind
  | help
  | version
  deriving DecidableEq

/-- What is wrong with the text of an environment variable. -/
inductive OverrideError where
  | noEquals (text : String)
  | emptyName (text : String)
  deriving DecidableEq

def OverrideError.message : OverrideError → String
  | .noEquals text => "expected KEY=VALUE, found \x60" ++ text ++ "\x60"
  | .emptyName text => "empty variable name in \x60" ++ text ++ "\x60"

/-- Why a command line is not followed; a request for help or the version is among the reasons. -/
inductive UsageError where
  | missing
  | conflict
  | unknown
  | noValue
  | unwantedValue
  | badOverride (error : OverrideError)
  | help
  | version
  deriving DecidableEq

/-- The exit code for a command line that is not followed: a request is no mistake. -/
def UsageError.exitCode : UsageError → Nat
  | .help | .version => 0
  | _ => 2

/-- Splits the text of an environment variable at its first equals sign. -/
def parseOverride (text : String) : Except OverrideError (String × String) :=
  let (name, rest) := text.toList.span (· ≠ '=')
  match rest with
  | [] => .error (.noEquals text)
  | _ :: value =>
    if name.isEmpty then .error (.emptyName text)
    else .ok (String.ofList name, String.ofList value)

/-- How a test command is given: as one text, or as a program and its arguments. -/
inductive GivenCommand where
  | line (text : String)
  | words (program : String) (arguments : List String)
  deriving DecidableEq

/-- A command line that is followed. -/
structure CommandLine where
  name : String
  command : GivenCommand
  overrides : List (String × String) := []
  config : Option String := none
  platform : Option String := none
  binDirectory : Option String := none
  dryRun : Bool := false
  verbose : Bool := false
  valgrind : Bool := false
  deriving DecidableEq

namespace CommandLine

/-- The option with this long name. -/
def valueOption? (name : String) : Option ValueOption :=
  match name with
  | "name" => some .name
  | "env" => some .override
  | "command" => some .command
  | "config" => some .config
  | "platform" => some .platform
  | "bin-dir" => some .binDirectory
  | _ => none

/-- The flag with this long name. -/
def flag? (name : String) : Option Flag :=
  match name with
  | "dry-run" => some .dryRun
  | "verbose" => some .verbose
  | "valgrind" => some .valgrind
  | "help" => some .help
  | "version" => some .version
  | _ => none

/-- The flag with this letter. -/
def flagOfLetter? (letter : Char) : Option Flag :=
  if letter = 'v' then some .verbose
  else if letter = 'h' then some .help
  else if letter = 'V' then some .version
  else none

/-- A command line read in part. -/
structure Draft where
  /-- The values of options that are given once, latest first. -/
  values : List (ValueOption × String) := []
  overrides : List (String × String) := []
  flags : List Flag := []
  /-- The option that waits for its value, or has one that is not checked yet. -/
  pending : Option (ValueOption × Option String) := none
  deriving DecidableEq

namespace Draft

/-- Gives an option its value. Only environment variables may be given more than once. -/
def give (draft : Draft) (option : ValueOption) (value : String) : Except UsageError Draft :=
  if option = .override then
    match parseOverride value with
    | .ok override => .ok { draft with overrides := draft.overrides ++ [override] }
    | .error error => .error (.badOverride error)
  else if (draft.values.lookup option).isSome then .error .conflict
  else .ok { draft with values := (option, value) :: draft.values }

/-- Checks the option that waits. -/
def settle (draft : Draft) : Except UsageError Draft :=
  let settled := { draft with pending := none }
  match draft.pending with
  | none => .ok settled
  | some (_, none) => .error .noValue
  | some (option, some value) => settled.give option value

/-- An option whose value is attached to it. -/
def giveAttached (draft : Draft) (option : ValueOption) (value : String) :
    Except UsageError Draft := do
  (← draft.settle).give option value

/-- An option whose value is the next argument. -/
def await (draft : Draft) (option : ValueOption) : Except UsageError Draft := do
  return { ← draft.settle with pending := some (option, none) }

/-- A flag, which may be given once. -/
def raise (draft : Draft) (flag : Flag) : Except UsageError Draft := do
  let draft ← draft.settle
  match flag with
  | .help => throw .help
  | .version => throw .version
  | flag =>
    if flag ∈ draft.flags then throw .conflict
    return { draft with flags := flag :: draft.flags }

/-- An argument with two dashes. -/
def readLong (draft : Draft) (text : List Char) : Except UsageError Draft :=
  let (name, rest) := text.span (· ≠ '=')
  let name := String.ofList name
  match flag? name, valueOption? name, rest with
  | some flag, _, [] => draft.raise flag
  | some _, _, _ :: _ => .error .unwantedValue
  | none, some option, [] => draft.await option
  | none, some option, _ :: value => draft.giveAttached option (String.ofList value)
  | none, none, _ => .error .unknown

/-- An argument with one dash: letters of flags, and at the end perhaps the letter of an option
with its value. One equals sign before the value is no part of it. -/
def readLetters (draft : Draft) : List Char → Except UsageError Draft
  | [] => .ok draft
  | letter :: rest =>
    if letter = 'e' then
      match rest with
      | [] => draft.await .override
      | '=' :: value => draft.giveAttached .override (String.ofList value)
      | value => draft.giveAttached .override (String.ofList value)
    else
      match flagOfLetter? letter with
      | none => .error .unknown
      | some flag =>
        match draft.raise flag with
        | .ok next => readLetters next rest
        | .error error => .error error

/-- An argument before `--`. Without a dash in front, or as a dash alone, it is the value that an
option waits for. -/
def readArgument (draft : Draft) (argument : String) : Except UsageError Draft :=
  match argument.toList with
  | '-' :: '-' :: text => draft.readLong text
  | '-' :: letter :: rest => draft.readLetters (letter :: rest)
  | _ =>
    match draft.pending with
    | some (option, none) => .ok { draft with pending := some (option, some argument) }
    | _ => .error .unknown

/-- The command that is given, as a text or as words, but not both. -/
def command (draft : Draft) (words : List String) : Except UsageError (Option GivenCommand) :=
  match draft.values.lookup .command, words with
  | some _, _ :: _ => .error .conflict
  | some text, [] => .ok (some (.line text))
  | none, program :: arguments => .ok (some (.words program arguments))
  | none, [] => .ok none

/-- The command line from its checked options and the words after `--`. A settings file named by
the environment stands in for one that is not named here. -/
def finish (draft : Draft) (words : List String) (config : Option String) :
    Except UsageError CommandLine := do
  match draft.values.lookup .name, ← draft.command words with
  | some name, some command =>
    return {
      name, command
      overrides := draft.overrides
      config := draft.values.lookup .config <|> config
      platform := draft.values.lookup .platform
      binDirectory := draft.values.lookup .binDirectory
      dryRun := draft.flags.contains .dryRun
      verbose := draft.flags.contains .verbose
      valgrind := draft.flags.contains .valgrind }
  | _, _ => throw .missing

end Draft

/-- Reads a command line. `config` is the settings file that the environment names. -/
def parse (arguments : List String) (config : Option String) : Except UsageError CommandLine := do
  let (options, words) := arguments.span (· ≠ "--")
  let draft ← options.foldlM Draft.readArgument ({} : Draft)
  (← draft.settle).finish words.tail config

end CommandLine

end Verdict
