import Verdict.Map
import Verdict.Toml.Scalar
import Verdict.Toml.Text
/-! TOML documents. A document is a list of statements: headers of tables, headers of rows of
tables, and values under keys. Each table is defined once; a table that only came to be on the way
to another one may still be defined by its own header. -/
namespace Verdict.Toml

/-- What stands under a key. -/
inductive Item where
  | value (value : ConfigValue)
  /-- A table: whether it only came to be on the way to something else, and whether that was by a
  dotted key. -/
  | table (implicit dotted : Bool) (entries : List (String × Item))
  /-- Tables under one header, latest last. -/
  | rows (tables : List (List (String × Item)))

abbrev Entries := List (String × Item)

/-- An item as a configured value. -/
def Item.toValue : Item → ConfigValue
  | .value given => given
  | .table .. => .table
  | .rows _ => .list

/-- Changes the table at the end of a path, making the tables on the way. `dotted` says that the
path belongs to a dotted key: it may not enter a table that has a header of its own, nor end in a
row of tables. -/
def descend (dotted : Bool) (change : Entries → Option Entries) :
    List String → Entries → Option Entries
  | [], entries => change entries
  | key :: path, entries =>
    match entries.lookup key with
    | none =>
      (descend dotted change path []).map fun children =>
        putEntry key (.table true dotted children) entries
    | some (.value _) => none
    | some (.table implicit byDots children) =>
      if dotted && !implicit then none
      else
        (descend dotted change path children).map fun children =>
          putEntry key (.table implicit byDots children) entries
    | some (.rows tables) =>
      match tables.reverse with
      | [] => none
      | last :: earlier =>
        if dotted && path.isEmpty then none
        else
          (descend dotted change path last).map fun last =>
            putEntry key (.rows (earlier.reverse ++ [last])) entries

/-- Puts a value under a key that is not taken. -/
def assign (path : List String) (value : ConfigValue) (entries : Entries) : Option Entries :=
  match path.getLast? with
  | none => none
  | some key =>
    let way := path.dropLast
    descend (!way.isEmpty) (fun entries =>
      if (entries.lookup key).isSome then none else some (putEntry key (.value value) entries))
      way entries

/-- Defines a table by its header, after all that its parent holds. -/
def openTable (path : List String) (entries : Entries) : Option Entries :=
  match path.getLast? with
  | none => none
  | some key =>
    descend false (fun entries =>
      match entries.lookup key with
      | none => some (entries ++ [(key, .table false false [])])
      | some (.table true false children) =>
        some (entries.filter (·.1 ≠ key) ++ [(key, .table false false children)])
      | some _ => none) path.dropLast entries

/-- Begins another row under a header. -/
def openRow (path : List String) (entries : Entries) : Option Entries :=
  match path.getLast? with
  | none => none
  | some key =>
    descend false (fun entries =>
      match entries.lookup key with
      | none => some (putEntry key (.rows [[]]) entries)
      | some (.rows tables) => some (putEntry key (.rows (tables ++ [[]])) entries)
      | some _ => none) path.dropLast entries

/-- A statement of a document. -/
inductive Statement where
  | table (path : List String)
  | row (path : List String)
  | value (path : List String) (value : ConfigValue)

/-- A document under way: its entries, and the path of the table that values go to. -/
structure Draft where
  entries : Entries := []
  current : List String := []

def Draft.apply (draft : Draft) : Statement → Option Draft
  | .table path => (openTable path draft.entries).map fun entries => ⟨entries, path⟩
  | .row path => (openRow path draft.entries).map fun entries => ⟨entries, path⟩
  | .value path value =>
    (descend false (assign path value) draft.current draft.entries).map fun entries =>
      { draft with entries }

mutual

/-- A value. The first number bounds the steps, the second one how much deeper values nest. -/
def readValue : Nat → Nat → List Char → Option (ConfigValue × List Char)
  | 0, _, _ => none
  | steps + 1, depth, text =>
    match text with
    | '"' :: _ | '\'' :: _ => (readString text).map fun (text, rest) => (.text text, rest)
    | '[' :: rest =>
      match depth with
      | 0 => none
      | depth + 1 => (readArray steps depth rest).map (.list, ·)
    | '\x7b' :: rest =>
      match depth with
      | 0 => none
      | depth + 1 => (readInline steps depth [] rest).map (.table, ·)
    | _ => readScalar text

/-- What follows an array, from after its opening bracket or a comma on. -/
def readArray : Nat → Nat → List Char → Option (List Char)
  | 0, _, _ => none
  | steps + 1, depth, text =>
    match skipFiller false text with
    | ']' :: rest => some rest
    | text =>
      match readValue steps depth text with
      | none => none
      | some (_, rest) =>
        match skipFiller false rest with
        | ',' :: rest => readArray steps depth rest
        | ']' :: rest => some rest
        | _ => none

/-- What follows a table in braces, from after its opening brace or a comma on. Its keys obey the
rules of a document, but lines may end before and after each of its marks. -/
def readInline : Nat → Nat → Entries → List Char → Option (List Char)
  | 0, _, _, _ => none
  | steps + 1, depth, entries, text =>
    match skipFiller false text with
    | '\x7d' :: rest => some rest
    | text =>
      match readKey text with
      | none => none
      | some (path, rest) =>
        match skipFiller false rest with
        | '=' :: rest =>
          match readValue steps depth (skipFiller false rest) with
          | none => none
          | some (value, rest) =>
            match assign path value entries with
            | none => none
            | some entries =>
              match skipFiller false rest with
              | ',' :: rest => readInline steps depth entries rest
              | '\x7d' :: rest => some rest
              | _ => none
        | _ => none

end

/-- How deep values may nest. -/
def depthLimit : Nat := 80

/-- A statement without the end of its line. -/
def readStatement (text : List Char) : Option (Statement × List Char) :=
  match text with
  | '[' :: '[' :: rest =>
    match readKey (skipSpace rest) with
    | none => none
    | some (path, rest) =>
      match skipSpace rest with
      | ']' :: ']' :: rest => some (.row path, rest)
      | _ => none
  | '[' :: rest =>
    match readKey (skipSpace rest) with
    | none => none
    | some (path, rest) =>
      match skipSpace rest with
      | ']' :: rest => some (.table path, rest)
      | _ => none
  | _ =>
    match readKey text with
    | none => none
    | some (path, rest) =>
      match skipSpace rest with
      | '=' :: rest =>
        let text := skipSpace rest
        (readValue text.length depthLimit text).map fun (value, rest) => (.value path value, rest)
      | _ => none

/-- The statements of a document, applied one after the other. The number bounds the statements. -/
def readStatements : Nat → Draft → List Char → Option Draft
  | 0, _, _ => none
  | steps + 1, draft, text =>
    match skipFiller false text with
    | [] => some draft
    | text =>
      match readStatement text with
      | none => none
      | some (statement, rest) =>
        match draft.apply statement, endOfLine rest with
        | some draft, some rest => readStatements steps draft rest
        | _, _ => none

/-- The top-level keys of a document with their values, in the order in which they first came. A
byte order mark at the front is no part of the document. -/
def parse? (document : String) : Option (List (String × ConfigValue)) :=
  let text := match document.toList with
    | '\ufeff' :: rest => rest
    | text => text
  (readStatements (text.length + 1) {} text).map fun draft =>
    draft.entries.map fun (key, item) => (key, item.toValue)

end Verdict.Toml
