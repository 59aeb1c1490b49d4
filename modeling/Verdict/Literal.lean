import Verdict.Number.Binary64
import Verdict.Text.Basic
/-! The literals that result lines carry, and reading them. Every function takes a text and returns
a value with what is left of the text, or nothing. A mapping takes as many complete entries as it
can, so where a text is refused, what comes before can always be completed to a mapping. -/
namespace Verdict

/-! ### Values -/

/-- A plain value. -/
inductive Plain where
  | text (value : String)
  | int (value : Int)
  | float (value : Binary64)
  | bool (value : Bool)
  | nothing
  deriving DecidableEq

/-- A value of an entry: a plain one, or a mapping in the order of its entries. A mapping inside a
mapping holds plain values only. -/
inductive Literal where
  | plain (value : Plain)
  | mapping (entries : List (String × Plain))
  deriving DecidableEq

/-! ### Reading -/

namespace Literal

/-- The characters that may stand between any two tokens. -/
def isSpace (character : Char) : Bool :=
  character == ' ' || character == '\t' || character == '\r' || character == '\n'

def skipSpace (text : List Char) : List Char := text.dropWhile isSpace

/-- What a backslash and a character stand for. An escape without a meaning stands for itself,
the backslash included. -/
def unescape : Char → List Char
  | 'n' => ['\n']
  | 't' => ['\t']
  | 'r' => ['\r']
  | '0' => ['\x00']
  | '\\' => ['\\']
  | '\'' => ['\'']
  | '"' => ['"']
  | other => ['\\', other]

/-- The rest of a string after its opening quote, up to the same quote. -/
def readQuoted (quote : Char) : List Char → Option (List Char × List Char)
  | [] => none
  | '\\' :: [] => none
  | '\\' :: escaped :: rest =>
    (readQuoted quote rest).map fun (body, rest) => (unescape escaped ++ body, rest)
  | character :: rest =>
    if character = quote then some ([], rest)
    else (readQuoted quote rest).map fun (body, rest) => (character :: body, rest)

/-- A string in single or double quotes. -/
def readText : List Char → Option (String × List Char)
  | '\'' :: rest => (readQuoted '\'' rest).map fun (body, rest) => (String.ofList body, rest)
  | '"' :: rest => (readQuoted '"' rest).map fun (body, rest) => (String.ofList body, rest)
  | _ => none

/-- The words that stand for a value. -/
def keywords : List (String × Plain) :=
  [("True", .bool true), ("False", .bool false), ("None", .nothing)]

/-- A keyword at the front of a text; what follows it does not matter here. -/
def readKeyword (text : List Char) : Option (Plain × List Char) :=
  (keywords.find? fun (word, _) => word.toList.isPrefixOf text).map fun (word, value) =>
    (value, text.drop word.toList.length)

/-- The characters of numbers. -/
def isNumberCharacter (character : Char) : Bool :=
  character.isDigit || character == '+' || character == '-' || character == '.'
    || character == 'e' || character == 'E'

/-- A word as a number: an integer of 64 bits if it is one, otherwise a decimal that is not too
large to be finite. -/
def numberOfWord (word : List Char) : Option Plain :=
  match readInt64? word with
  | some value => some (.int value)
  | none => ((readDecimal? word).filter Binary64.isFinite).map .float

/-- A number: the longest run of number characters must be one as a whole. -/
def readNumber (text : List Char) : Option (Plain × List Char) :=
  let (word, rest) := text.span isNumberCharacter
  if word.isEmpty then none else (numberOfWord word).map (·, rest)

/-- A plain value: a string, a keyword or a number. -/
def readPlain (text : List Char) : Option (Plain × List Char) :=
  match readText text with
  | some (value, rest) => some (.text value, rest)
  | none =>
    match readKeyword text with
    | some found => some found
    | none => readNumber text

/-- An entry: a string, a colon and a value, with space around the colon. -/
def readEntry {α : Type} (readValue : List Char → Option (α × List Char)) (text : List Char) :
    Option ((String × α) × List Char) :=
  match readText text with
  | none => none
  | some (name, rest) =>
    match skipSpace rest with
    | ':' :: rest => (readValue (skipSpace rest)).map fun (value, rest) => ((name, value), rest)
    | _ => none

/-- A comma and an item after it, given up as a whole if either is missing. -/
def readNext {α : Type} (readItem : List Char → Option (α × List Char)) (text : List Char) :
    Option (α × List Char) :=
  match skipSpace text with
  | ',' :: rest => readItem (skipSpace rest)
  | _ => none

/-- As many further items as there are, each after a comma, and what follows the last one. -/
def readFurther {α : Type} (readItem : List Char → Option (α × List Char)) (text : List Char) :
    List α × List Char :=
  match readNext readItem text with
  | none => ([], text)
  | some (item, rest) =>
    if rest.length < text.length then
      let (items, rest) := readFurther readItem rest
      (item :: items, rest)
    else ([], text)
termination_by text.length

/-- As many items as there are, separated by commas, and what follows the last one. -/
def readItems {α : Type} (readItem : List Char → Option (α × List Char)) (text : List Char) :
    List α × List Char :=
  match readItem text with
  | none => ([], text)
  | some (item, rest) =>
    let (items, rest) := readFurther readItem rest
    (item :: items, rest)

/-- Takes a comma off the front of a text, if there is one. -/
def skipComma (text : List Char) : List Char :=
  match skipSpace text with
  | ',' :: rest => rest
  | _ => text

/-- A mapping in braces; after at least one entry a comma may stand before the closing brace. On
refusal the result is what is left at the point where reading could not go on. -/
def readMapping {α : Type} (readValue : List Char → Option (α × List Char)) :
    List Char → Except (List Char) (List (String × α) × List Char)
  | '{' :: rest =>
    let (entries, rest) := readItems (readEntry readValue) (skipSpace rest)
    match skipSpace (if entries.isEmpty then rest else skipComma rest) with
    | '}' :: rest => .ok (entries, rest)
    | stuck => .error stuck
  | stuck => .error stuck

/-- The value of an entry: a mapping of plain values, or a plain value. -/
def readValue (text : List Char) : Option (Literal × List Char) :=
  match readMapping readPlain text with
  | .ok (entries, rest) => some (.mapping entries, rest)
  | .error _ => (readPlain text).map fun (value, rest) => (.plain value, rest)

/-- The entries of a text that is a mapping and nothing else but space around it, or what is left
where reading could not go on. -/
def readWhole (text : List Char) : Except (List Char) (List (String × Literal)) :=
  match readMapping readValue (skipSpace text) with
  | .error stuck => .error stuck
  | .ok (entries, rest) =>
    match skipSpace rest with
    | [] => .ok entries
    | stuck => .error stuck

/-- A text that is no mapping literal, with the number of octets before the point at which
reading could not go on. -/
structure Refusal where
  payload : String
  offset : Nat
  deriving DecidableEq

/-- The entries of a mapping literal in their order. -/
def parseMapping (payload : List Char) : Except Refusal (List (String × Literal)) :=
  match readWhole payload with
  | .ok entries => .ok entries
  | .error stuck => .error ⟨String.ofList payload, Utf8.length payload - Utf8.length stuck⟩

end Literal

end Verdict
