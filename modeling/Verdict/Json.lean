import Verdict.Map
import Verdict.Number.Binary64
import Verdict.Number.Shortest
/-! JSON values, and writing them without spaces. Whole numbers and double-precision numbers are
kept apart, and the members of an object stand in the order of their names. -/
namespace Verdict

/-! ### Values -/

/-- A JSON value. Objects made by this library list their members by name, each name once. -/
inductive Json where
  | null
  | bool (value : Bool)
  | int (value : Int)
  | float (value : Binary64)
  | str (text : String)
  | arr (items : List Json)
  | obj (members : List (String × Json))

namespace Json

mutual

/-- Equality of values, member by member. -/
def decEq : (left right : Json) → Decidable (left = right)
  | .null, .null => isTrue rfl
  | .bool left, .bool right => decidable_of_iff (left = right) (by simp)
  | .int left, .int right => decidable_of_iff (left = right) (by simp)
  | .float left, .float right => decidable_of_iff (left = right) (by simp)
  | .str left, .str right => decidable_of_iff (left = right) (by simp)
  | .arr left, .arr right =>
    match decEqItems left right with
    | isTrue same => isTrue (by rw [same])
    | isFalse different => isFalse (by simpa using different)
  | .obj left, .obj right =>
    match decEqMembers left right with
    | isTrue same => isTrue (by rw [same])
    | isFalse different => isFalse (by simpa using different)
  | .null, .bool _ | .null, .int _ | .null, .float _ | .null, .str _ | .null, .arr _
  | .null, .obj _ | .bool _, .null | .bool _, .int _ | .bool _, .float _ | .bool _, .str _
  | .bool _, .arr _ | .bool _, .obj _ | .int _, .null | .int _, .bool _ | .int _, .float _
  | .int _, .str _ | .int _, .arr _ | .int _, .obj _ | .float _, .null | .float _, .bool _
  | .float _, .int _ | .float _, .str _ | .float _, .arr _ | .float _, .obj _ | .str _, .null
  | .str _, .bool _ | .str _, .int _ | .str _, .float _ | .str _, .arr _ | .str _, .obj _
  | .arr _, .null | .arr _, .bool _ | .arr _, .int _ | .arr _, .float _ | .arr _, .str _
  | .arr _, .obj _ | .obj _, .null | .obj _, .bool _ | .obj _, .int _ | .obj _, .float _
  | .obj _, .str _ | .obj _, .arr _ => isFalse nofun

def decEqItems : (left right : List Json) → Decidable (left = right)
  | [], [] => isTrue rfl
  | [], _ :: _ => isFalse nofun
  | _ :: _, [] => isFalse nofun
  | left :: lefts, right :: rights =>
    match decEq left right, decEqItems lefts rights with
    | isTrue same, isTrue rest => isTrue (by rw [same, rest])
    | isFalse different, _ => isFalse (by simp [different])
    | _, isFalse different => isFalse (by simp [different])

def decEqMembers : (left right : List (String × Json)) → Decidable (left = right)
  | [], [] => isTrue rfl
  | [], _ :: _ => isFalse nofun
  | _ :: _, [] => isFalse nofun
  | (leftName, left) :: lefts, (rightName, right) :: rights =>
    if names : leftName = rightName then
      match decEq left right, decEqMembers lefts rights with
      | isTrue same, isTrue rest => isTrue (by rw [names, same, rest])
      | isFalse different, _ => isFalse (by simp [different])
      | _, isFalse different => isFalse (by simp [different])
    else isFalse (by simp [names])

end

instance : DecidableEq Json := decEq

/-- The object with these members; of a repeated name the last value stays. -/
def object (members : List (String × Json)) : Json := .obj (SortedMap.ofList members).entries

end Json

/-! ### Writing -/

/-- Numbers in JSON: positional from 0.00001 up to 10 ^ 16 and always with a fraction, otherwise
with an exponent. What is no finite number is written as `null`. -/
def jsonNumber : NumberLayout where
  tie := .toEven
  positional := fun leading => decide (-5 ≤ leading) && decide (leading < 16)
  wholeEnding := ".0"
  notANumber := "null"
  infinity := "null"
  negativeInfinity := "null"

namespace Json

/-- The lower-case hexadecimal digit of a number below sixteen. -/
def hexDigit (value : Nat) : Char :=
  if value < 10 then Char.ofNat ('0'.toNat + value) else Char.ofNat ('a'.toNat + (value - 10))

/-- A unit of sixteen bits as an escape with four hexadecimal digits. -/
def unitEscape (unit : Nat) : List Char :=
  ['\\', 'u', hexDigit (unit / 4096 % 16), hexDigit (unit / 256 % 16), hexDigit (unit / 16 % 16),
    hexDigit (unit % 16)]

/-- The escapes that have a letter of their own. -/
def shortEscape? : Char → Option (List Char)
  | '"' => some ['\\', '"']
  | '\\' => some ['\\', '\\']
  | '\x08' => some ['\\', 'b']
  | '\x0c' => some ['\\', 'f']
  | '\n' => some ['\\', 'n']
  | '\r' => some ['\\', 'r']
  | '\t' => some ['\\', 't']
  | _ => none

/-- A character inside a string: quotes, backslashes and control characters are escaped, and
everything else stands for itself. -/
def plainCharacter (character : Char) : List Char :=
  match shortEscape? character with
  | some escape => escape
  | none => if character.toNat < 0x20 then unitEscape character.toNat else [character]

/-- A string with its quotes. -/
def quote (text : String) : List Char :=
  '"' :: (text.toList.flatMap plainCharacter ++ ['"'])

mutual

/-- The text of a value, without spaces. -/
def chars : Json → List Char
  | .null => "null".toList
  | .bool true => "true".toList
  | .bool false => "false".toList
  | .int value => (toString value).toList
  | .float value => (jsonNumber.text value).toList
  | .str text => quote text
  | .arr items => '[' :: (itemChars items ++ [']'])
  | .obj members => '\x7b' :: (memberChars members ++ ['\x7d'])

def itemChars : List Json → List Char
  | [] => []
  | [item] => chars item
  | item :: rest => chars item ++ ',' :: itemChars rest

def memberChars : List (String × Json) → List Char
  | [] => []
  | [(name, value)] => quote name ++ ':' :: chars value
  | (name, value) :: rest =>
    quote name ++ ':' :: chars value ++ ',' :: memberChars rest

end

end Json

end Verdict
