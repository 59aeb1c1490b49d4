import Verdict.Text.Basic
/-! Why a test could not be run to its end, and how causes are shown. An error has a message and a
chain of causes, each one behind the one before it; a panic has whatever was thrown. The message of
an error may show a command as one line. -/
namespace Verdict

/-! ### Command lines

Blanks separate words, quotes keep them together, a backslash takes the next character as it is,
and `#` at the start of a word begins a comment. `joinWords` writes words so that they are read back
as they are. -/

namespace Shell

/-- Where in a command line a character stands. -/
inductive Place where
  | between
  | inWord
  | inSingleQuotes
  | inDoubleQuotes
  | inComment
  deriving DecidableEq

def isSeparator (character : Char) : Bool :=
  character == ' ' || character == '\t' || character == '\n'

/-- The characters that a backslash escapes between double quotes. -/
def isEscapable (character : Char) : Bool :=
  character == '$' || character == '\x60' || character == '"' || character == '\\'

/-- The words of a command line from some place on. `word` holds the word begun so far, latest
character first. Quotes that are never closed leave no result. -/
def wordsFrom (place : Place) (word : List Char) : List Char → Option (List (List Char))
  | [] =>
    match place with
    | .between | .inComment => some []
    | .inWord => some [word.reverse]
    | .inSingleQuotes | .inDoubleQuotes => none
  | character :: rest =>
    match place with
    | .inComment => wordsFrom (if character = '\n' then .between else .inComment) [] rest
    | .inSingleQuotes =>
      if character = '\'' then wordsFrom .inWord word rest
      else wordsFrom .inSingleQuotes (character :: word) rest
    | .inDoubleQuotes =>
      if character = '"' then wordsFrom .inWord word rest
      else if character = '\\' then
        match rest with
        | [] => none
        | '\n' :: rest => wordsFrom .inDoubleQuotes word rest
        | next :: rest =>
          if isEscapable next then wordsFrom .inDoubleQuotes (next :: word) rest
          else wordsFrom .inDoubleQuotes (next :: '\\' :: word) rest
      else wordsFrom .inDoubleQuotes (character :: word) rest
    | .between | .inWord =>
      if character = '\'' then wordsFrom .inSingleQuotes word rest
      else if character = '"' then wordsFrom .inDoubleQuotes word rest
      else if character = '\\' then
        match rest with
        | [] => some [('\\' :: word).reverse]
        | '\n' :: rest => wordsFrom place word rest
        | next :: rest => wordsFrom .inWord (next :: word) rest
      else if isSeparator character then
        if place = .inWord then (wordsFrom .between [] rest).map (word.reverse :: ·)
        else wordsFrom .between [] rest
      else if character = '#' ∧ place = .between then wordsFrom .inComment [] rest
      else wordsFrom .inWord (character :: word) rest

/-- The words of a command line, or nothing if quotes are left open. -/
def splitWords (line : String) : Option (List String) :=
  (wordsFrom .between [] line.toList).map (·.map String.ofList)

/-- The characters that mean something to a command line. -/
def specialCharacters : List Char :=
  ['\n', '\'', '|', '&', ';', '<', '>', '(', ')', '$', '\x60', '\\', '"', ' ', '\t', '*', '?', '[',
    '#', '~', '=', '%']

/-- Whether a word must be quoted: it is empty or has a special character. -/
def needsQuotes (word : List Char) : Bool :=
  word.isEmpty || word.any specialCharacters.contains

/-- A character between single quotes. A single quote closes them, stands escaped, and opens them
again. -/
def quotedCharacter (character : Char) : List Char :=
  if character = '\'' then ['\'', '\\', '\'', '\''] else [character]

/-- A word as it is written on a command line. -/
def quoteWord (word : List Char) : List Char :=
  if needsQuotes word then '\'' :: (word.flatMap quotedCharacter ++ ['\'']) else word

/-- Words written one after the other, a space between them. -/
def joinWords (words : List String) : String :=
  String.ofList (glue ' ' (words.map fun word => quoteWord word.toList))

end Shell

/-! ### Errors and panics -/

/-- A message with the causes behind it: alone if there are none, otherwise followed by one line
per cause. -/
def chainText (message : String) (causes : List String) : String :=
  match causes with
  | [] => message
  | _ => message ++ "\n  caused by:" ++ String.join (causes.map ("\n  - " ++ ·))

/-- A command line whose quotes are never closed. -/
structure CommandError where
  command : String
  deriving DecidableEq

namespace CommandError

def message (error : CommandError) : String :=
  "failed to split command \x60" ++ error.command ++ "\x60 into arguments"

def causes (_ : CommandError) : List String := ["missing closing quote"]

end CommandError

/-- Splits a command line into its words. -/
def splitCommand (command : String) : Except CommandError (List String) :=
  match Shell.splitWords command with
  | some words => .ok words
  | none => .error ⟨command⟩

/-- Why a run of a test gave no output. Any test may report any of these errors, so what is behind
one is a chain of causes of any length. -/
inductive RunError where
  /-- The process of a command line could not be started, though its executable may exist. -/
  | spawn (line : String) (causes : List String)
  | command (error : CommandError)
  /-- Loose fields are no record. -/
  | invalidOutput (causes : List String)
  /-- An error of the test itself. -/
  | test (causes : List String)
  deriving DecidableEq

namespace RunError

/-- The short name of the kind of error. -/
def kind : RunError → String
  | .spawn .. => "Spawn"
  | .command _ => "Command"
  | .invalidOutput _ => "InvalidOutput"
  | .test _ => "Test"

def message : RunError → String
  | .spawn line _ => "failed to spawn \x60" ++ line ++ "\x60"
  | .command error => error.message
  | .invalidOutput _ => "test output could not be converted into a result record"
  | .test _ => "test implementation failed"

def causes : RunError → List String
  | .command error => error.causes
  | .spawn _ causes | .invalidOutput causes | .test causes => causes

/-- The message with all causes. -/
def chain (error : RunError) : String := chainText error.message error.causes

end RunError

/-- What a panic carries: a text, or something that cannot be shown. -/
inductive Payload where
  | text (message : String)
  | other
  deriving DecidableEq

def Payload.message : Payload → String
  | .text message => message
  | .other => "(non-string panic payload)"

/-- How a stage of a test can go wrong. -/
inductive Fault where
  | error (error : RunError)
  | panic (payload : Payload)
  deriving DecidableEq

end Verdict
