/-! Texts as lists of characters: cutting them at a separator and gluing the pieces together again,
the white space of Unicode, and UTF-8. A text with `n` line feeds has `n + 1` lines, the last of
which may be empty. Decoding never fails: it reads one octet at a time, and every longest run of
octets that begins a character without completing one becomes a single replacement character. -/
namespace Verdict

/-! ### Pieces -/

section
variable {α : Type} [DecidableEq α]

/-- The pieces between the separators, always at least one. -/
def pieces (separator : α) : List α → List (List α)
  | [] => [[]]
  | head :: rest =>
    if head = separator then [] :: pieces separator rest
    else
      match pieces separator rest with
      | [] => [[head]]
      | first :: others => (head :: first) :: others

/-- The pieces glued with the separator between them. -/
def glue (separator : α) : List (List α) → List α
  | [] => []
  | [piece] => piece
  | piece :: rest => piece ++ separator :: glue separator rest

theorem pieces_ne_nil (separator : α) (text : List α) : pieces separator text ≠ [] := by
  fun_cases pieces separator text <;> simp_all

/-- Gluing undoes cutting. -/
theorem glue_pieces (separator : α) (text : List α) :
    glue separator (pieces separator text) = text := by
  induction text with
  | nil => rfl
  | cons head rest ih =>
    have some := pieces_ne_nil separator rest
    rw [pieces]
    split
    · subst_vars
      cases eq : pieces head rest with
      | nil => exact absurd eq some
      | cons first others => rw [← eq] at *; cases h : pieces head rest <;> simp_all [glue]
    · cases eq : pieces separator rest with
      | nil => exact absurd eq some
      | cons first others =>
        rw [eq] at ih
        cases others <;> simp_all [glue]

end

/-! ### White space -/

/-- Whether a character is white space: the property `White_Space`, which has 25 members. -/
def isBlank (character : Char) : Bool :=
  let code := character.toNat
  decide (0x09 ≤ code ∧ code ≤ 0x0D) || code == 0x20 || code == 0x85 || code == 0xA0
    || code == 0x1680 || decide (0x2000 ≤ code ∧ code ≤ 0x200A) || code == 0x2028
    || code == 0x2029 || code == 0x202F || code == 0x205F || code == 0x3000

/-- A text without the white space at its front. -/
def trimFront (text : List Char) : List Char := text.dropWhile isBlank

/-! ### Octets -/

namespace Utf8

/-- The octets of a text. -/
def encode (text : List Char) : List UInt8 := text.flatMap String.utf8EncodeChar

/-- The number of octets of a text. -/
def length (text : List Char) : Nat :=
  text.foldr (fun character total => character.utf8Size + total) 0

/-- What stands for octets that are no character. -/
def replacement : Char := '\ufffd'

/-- The state between two octets: nothing pending, or a character begun, with the bits read so
far, the number of octets still missing, and the range from which the next one must come. -/
inductive State where
  | start
  | inside (value missing : Nat) (low high : UInt8)
  deriving DecidableEq

/-- An octet where a character may begin. -/
def begin (octet : UInt8) : List Char × State :=
  let value := octet.toNat
  if value < 0x80 then ([Char.ofNat value], .start)
  else if value < 0xC2 then ([replacement], .start)
  else if value < 0xE0 then ([], .inside (value - 0xC0) 1 0x80 0xBF)
  else if value = 0xE0 then ([], .inside 0 2 0xA0 0xBF)
  else if value = 0xED then ([], .inside 0xD 2 0x80 0x9F)
  else if value < 0xF0 then ([], .inside (value - 0xE0) 2 0x80 0xBF)
  else if value = 0xF0 then ([], .inside 0 3 0x90 0xBF)
  else if value < 0xF4 then ([], .inside (value - 0xF0) 3 0x80 0xBF)
  else if value = 0xF4 then ([], .inside 4 3 0x80 0x8F)
  else ([replacement], .start)

/-- Reads one octet: the characters that are settled by it, and the state after it. An octet that
cannot go on with a character settles the replacement and is then read afresh. -/
def step : State → UInt8 → List Char × State
  | .start, octet => begin octet
  | .inside value missing low high, octet =>
    if low ≤ octet ∧ octet ≤ high then
      let value := 64 * value + (octet.toNat - 0x80)
      if missing ≤ 1 then ([Char.ofNat value], .start)
      else ([], .inside value (missing - 1) 0x80 0xBF)
    else
      let (settled, state) := begin octet
      (replacement :: settled, state)

/-- The characters of octets that follow a state. An unfinished character at the end is replaced. -/
def decodeFrom : State → List UInt8 → List Char
  | .start, [] => []
  | .inside .., [] => [replacement]
  | state, octet :: rest =>
    let (settled, next) := step state octet
    settled ++ decodeFrom next rest

/-- The characters of octets. -/
def decode (octets : List UInt8) : List Char := decodeFrom .start octets

end Utf8

end Verdict
