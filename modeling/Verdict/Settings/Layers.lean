import Verdict.Map
import Verdict.Number.Binary64
import Verdict.Number.Shortest
import Verdict.Text.LowerCase
import Verdict.Text.Quoted
/-! What the sources of settings say, laid on top of each other: first the file, then the
environment. Each source assigns values to keys; a later assignment covers an earlier one under
the same name and leaves all others as they are. Every source may give any kind of value for any
setting, and a value is taken as a truth value or a text where that makes sense. -/
namespace Verdict

/-! ### Values -/

/-- A configured value. No setting looks inside lists and tables, so only their presence counts. -/
inductive ConfigValue where
  | bool (value : Bool)
  | int (value : Int)
  | float (value : Binary64)
  | text (value : String)
  | list
  | table
  deriving DecidableEq

namespace ConfigValue

/-- The texts that stand for truth values, in lower case. -/
def truthValue? (text : String) : Option Bool :=
  if text = "1" ∨ text = "true" ∨ text = "on" ∨ text = "yes" then some true
  else if text = "0" ∨ text = "false" ∨ text = "off" ∨ text = "no" then some false
  else none

/-- A value as a truth value: a number is true unless it is zero, a text is compared in lower
case. Otherwise the result names what was found. -/
def toBool : ConfigValue → Except String Bool
  | .bool value => .ok value
  | .int value => .ok (decide (value ≠ 0))
  | .float value => .ok (!value.isZero)
  | .text value =>
    let lower := lowerCase value
    match truthValue? lower with
    | some value => .ok value
    | none => .error ("string " ++ quoted lower)
  | .list => .error "sequence"
  | .table => .error "map"

/-- A value as a text. Otherwise the result names what was found. -/
def toText : ConfigValue → Except String String
  | .bool value => .ok (if value then "true" else "false")
  | .int value => .ok (toString value)
  | .float value => .ok (plainNumber.text value)
  | .text value => .ok value
  | .list => .error "sequence"
  | .table => .error "map"

end ConfigValue

/-! ### Keys

A key is a name, perhaps followed by steps into the value of that name: `.name` into a table and
`[index]` into a list. A text that is not of this form is a name as a whole, so every text is a
key. -/

/-- A step into a configured value. -/
inductive KeyStep where
  | member (name : String)
  | element (index : Int)
  deriving DecidableEq

/-- A key: the name of a setting and the steps into its value. -/
structure KeyPath where
  name : String
  steps : List KeyStep := []
  deriving DecidableEq

namespace KeyPath

/-- The characters of names in keys. -/
def isNameCharacter (character : Char) : Bool :=
  character.isAlphanum || character == '_' || character == '-'

def isBlank (character : Char) : Bool := character == ' ' || character == '\t'

/-- The number between two brackets, with blanks around it. A plus sign is not allowed. -/
def readIndex? (text : List Char) : Option Int :=
  let word := ((text.dropWhile isBlank).reverse.dropWhile isBlank).reverse
  if word.head? = some '+' then none else readInt64? word

private theorem length_dropWhile_lt (test : Char → Bool) (first : Char) (text : List Char) :
    (text.dropWhile test).length < (first :: text).length := by
  have : (text.dropWhile test).length ≤ text.length := (List.dropWhile_sublist test).length_le
  simp only [List.length_cons]
  omega

/-- The steps after the name. -/
def readSteps? : List Char → Option (List KeyStep)
  | [] => some []
  | mark :: rest =>
    if mark = '.' then
      let name := rest.takeWhile isNameCharacter
      if name.isEmpty then none
      else
        (readSteps? (rest.dropWhile isNameCharacter)).map (.member (String.ofList name) :: ·)
    else if mark = '[' then
      match readIndex? (rest.takeWhile (· ≠ ']')), _closed : rest.dropWhile (· ≠ ']') with
      | some index, _ :: following => (readSteps? following).map (.element index :: ·)
      | _, _ => none
    else none
termination_by text => text.length
decreasing_by
  · exact length_dropWhile_lt isNameCharacter mark rest
  · have := length_dropWhile_lt (· ≠ ']') mark rest
    rw [_closed] at this
    simp only [List.length_cons] at this ⊢
    omega

/-- The key that a text is. -/
def ofText (text : String) : KeyPath :=
  let name := text.toList.takeWhile isNameCharacter
  match readSteps? (text.toList.dropWhile isNameCharacter) with
  | some steps => if name.isEmpty then ⟨text, []⟩ else ⟨String.ofList name, steps⟩
  | none => ⟨text, []⟩

end KeyPath

/-! ### Layers -/

/-- Where a configured value comes from. -/
inductive Origin where
  | file (path : String)
  | environment
  deriving DecidableEq

/-- The origin as messages name it. -/
def Origin.name : Origin → String
  | .file path => path
  | .environment => "the environment"

/-- A configured value with its origin. A value that is put together from parts has none. -/
structure Configured where
  value : ConfigValue
  origin : Option Origin
  deriving DecidableEq

/-- An assignment: a key as it is written, and the value it is given. -/
abbrev Assignment := String × Configured

/-- The configured values by the names of their settings, in the order in which the names first
came. -/
abbrev Layers := OrderedMap Configured

namespace Layers

/-- What stands under a name after a value was given to it, or to a part of it. Tables are merged,
a list keeps what the parts do not touch. -/
def covered (before : Option Configured) (steps : List KeyStep) (given : Configured) :
    Configured :=
  match steps with
  | [] => if given.value = .table then ⟨.table, none⟩ else given
  | .member _ :: _ => ⟨.table, none⟩
  | .element _ :: _ =>
    match before with
    | some ⟨.list, origin⟩ => ⟨.list, origin⟩
    | _ => ⟨.list, none⟩

/-- Makes one assignment. -/
def assign (layers : Layers) (assignment : Assignment) : Layers :=
  let path := KeyPath.ofText assignment.1
  layers.put path.name (covered (layers.get? path.name) path.steps assignment.2)

/-- An assignment changes what stands under the name that it begins with, and nothing else. -/
theorem get?_assign (layers : Layers) (assignment : Assignment) (name : String) :
    (layers.assign assignment).get? name =
      if name = (KeyPath.ofText assignment.1).name then
        some (covered (layers.get? name) (KeyPath.ofText assignment.1).steps assignment.2)
      else layers.get? name := by
  rw [assign, OrderedMap.get?_put]
  split
  · rename_i same
    rw [same]
  · rfl

/-- Makes assignments one after the other. -/
def assignAll (layers : Layers) (assignments : List Assignment) : Layers :=
  assignments.foldl assign layers

end Layers

end Verdict
