/-! The texts of TOML: space, comments, strings of all four kinds, and keys. Every function takes a
text and returns what it read with what is left of the text. -/
namespace Verdict.Toml

/-- The value of a hexadecimal digit. -/
def hexValue? (character : Char) : Option Nat :=
  if character.isDigit then some (character.toNat - '0'.toNat)
  else if 'a' ≤ character ∧ character ≤ 'f' then some (character.toNat - 'a'.toNat + 10)
  else if 'A' ≤ character ∧ character ≤ 'F' then some (character.toNat - 'A'.toNat + 10)
  else none

/-- The blanks inside a line. -/
def isSpace (character : Char) : Bool := character == ' ' || character == '\t'

def skipSpace (text : List Char) : List Char := text.dropWhile isSpace

/-- The control characters, which stand nowhere but as ends of lines. A tab is none of them. -/
def isControl (character : Char) : Bool :=
  (character.toNat < 0x20 && character ≠ '\t') || character.toNat == 0x7F

/-- Drops blanks, ends of lines and comments; `comment` says whether a comment has begun. -/
def skipFiller (comment : Bool) : List Char → List Char
  | [] => []
  | character :: rest =>
    if character = '\n' then skipFiller false rest
    else if character = '\r' ∧ rest.head? = some '\n' then skipFiller comment rest
    else if comment then
      if isControl character then character :: rest else skipFiller true rest
    else if isSpace character then skipFiller false rest
    else if character = '#' then skipFiller true rest
    else character :: rest

/-- What follows the end of the line, if nothing but blanks and a comment stands before it. -/
def endOfLine (text : List Char) : Option (List Char) :=
  let text := match skipSpace text with
    | '#' :: rest => rest.dropWhile (!isControl ·)
    | rest => rest
  match text with
  | [] => some []
  | '\n' :: rest => some rest
  | '\r' :: '\n' :: rest => some rest
  | _ => none

/-- Drops one end of line from the front of a text, if there is one. -/
def skipNewline : List Char → List Char
  | '\n' :: rest => rest
  | '\r' :: '\n' :: rest => rest
  | rest => rest

/-- The character that a letter stands for after a backslash. -/
def escaped? : Char → Option Char
  | 'b' => some '\x08'
  | 't' => some '\t'
  | 'n' => some '\n'
  | 'f' => some '\x0c'
  | 'r' => some '\r'
  | 'e' => some '\x1b'
  | '"' => some '"'
  | '\\' => some '\\'
  | _ => none

/-- Where in a quoted string a character stands: among the others, after a backslash, in a number
with so many digits missing, or where a line is joined with the next one. -/
inductive Place where
  | plain
  | escape
  | number (missing value : Nat)
  | joining (newline : Bool)

/-- At a quote inside a string over several lines: how many of the quotes belong to the string and
what follows it, if the quote begins the end of the string. Three quotes close it, and up to two
more that stand before them are its own. -/
def closing? (quote : Char) (rest : List Char) : Option (Nat × List Char) :=
  let following := (rest.takeWhile (· = quote)).length
  if following < 2 then none
  else
    let inside := min (following - 2) 2
    some (inside, rest.drop (inside + 2))

/-- The rest of a string in double quotes, latest character first, and what follows its closing
quotes. -/
def readBasic (lines : Bool) (place : Place) (done : List Char) (text : List Char) :
    Option (List Char × List Char) :=
  match text with
  | [] => none
  | character :: rest =>
    match place with
    | .plain =>
      if character = '"' then
        if !lines then some (done, rest)
        else
          match closing? character rest with
          | some (inside, rest) => some (List.replicate inside character ++ done, rest)
          | none => readBasic lines .plain (character :: done) rest
      else if character = '\\' then readBasic lines .escape done rest
      else if character = '\n' then
        if lines then readBasic lines .plain ('\n' :: done) rest else none
      else if character = '\r' then
        if lines ∧ rest.head? = some '\n' then readBasic lines .plain ('\r' :: done) rest else none
      else if isControl character then none
      else readBasic lines .plain (character :: done) rest
    | .escape =>
      match escaped? character with
      | some meant => readBasic lines .plain (meant :: done) rest
      | none =>
        if character = 'x' then readBasic lines (.number 2 0) done rest
        else if character = 'u' then readBasic lines (.number 4 0) done rest
        else if character = 'U' then readBasic lines (.number 8 0) done rest
        else if lines ∧ isSpace character then readBasic lines (.joining false) done rest
        else if lines ∧ character = '\n' then readBasic lines (.joining true) done rest
        else if lines ∧ character = '\r' ∧ rest.head? = some '\n' then
          readBasic lines (.joining false) done rest
        else none
    | .number missing value =>
      match hexValue? character with
      | none => none
      | some digit =>
        let value := 16 * value + digit
        if 1 < missing then readBasic lines (.number (missing - 1) value) done rest
        else if value.isValidChar then readBasic lines .plain (Char.ofNat value :: done) rest
        else none
    | .joining newline =>
      if character = '\n' then readBasic lines (.joining true) done rest
      else if isSpace character then readBasic lines (.joining newline) done rest
      else if character = '\r' ∧ rest.head? = some '\n' then
        readBasic lines (.joining newline) done rest
      else if newline then readBasic lines .plain done (character :: rest)
      else none
termination_by (text.length, match place with | .joining _ => 1 | _ => 0)

/-- The rest of a string in single quotes, in which nothing is escaped. -/
def readLiteral (lines : Bool) (done : List Char) : List Char → Option (List Char × List Char)
  | [] => none
  | character :: rest =>
    if character = '\'' then
      if !lines then some (done, rest)
      else
        match closing? character rest with
        | some (inside, rest) => some (List.replicate inside character ++ done, rest)
        | none => readLiteral lines (character :: done) rest
    else if character = '\n' then
      if lines then readLiteral lines ('\n' :: done) rest else none
    else if character = '\r' then
      if lines ∧ rest.head? = some '\n' then readLiteral lines ('\r' :: done) rest else none
    else if isControl character then none
    else readLiteral lines (character :: done) rest

private def finished : List Char × List Char → String × List Char
  | (done, rest) => (String.ofList done.reverse, rest)

/-- A string on one line. -/
def readLineString : List Char → Option (String × List Char)
  | '"' :: rest => (readBasic false .plain [] rest).map finished
  | '\'' :: rest => (readLiteral false [] rest).map finished
  | _ => none

/-- A string of any kind. The end of line right after three opening quotes is no part of it. -/
def readString : List Char → Option (String × List Char)
  | '"' :: '"' :: '"' :: rest => (readBasic true .plain [] (skipNewline rest)).map finished
  | '\'' :: '\'' :: '\'' :: rest => (readLiteral true [] (skipNewline rest)).map finished
  | rest => readLineString rest

/-- The characters of keys without quotes. -/
def isBareKey (character : Char) : Bool :=
  character.isAlphanum || character == '_' || character == '-'

/-- One part of a key. -/
def readKeyPart (text : List Char) : Option (String × List Char) :=
  match text.span isBareKey with
  | ([], _) => readLineString text
  | (part, rest) => some (String.ofList part, rest)

/-- How many parts a key may have. -/
def keyLimit : Nat := 80

/-- A key: parts with dots between them, blanks around the dots. The number bounds the parts. -/
def readKeyParts : Nat → List Char → Option (List String × List Char)
  | 0, _ => none
  | parts + 1, text =>
    match readKeyPart text with
    | none => none
    | some (part, rest) =>
      match skipSpace rest with
      | '.' :: more =>
        (readKeyParts parts (skipSpace more)).map fun (others, rest) => (part :: others, rest)
      | _ => some ([part], rest)

def readKey (text : List Char) : Option (List String × List Char) := readKeyParts keyLimit text

end Verdict.Toml
