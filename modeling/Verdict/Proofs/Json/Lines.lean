import Verdict.Journal
import Verdict.Proofs.Number.Numerals
import Verdict.Proofs.Text.Decoding
/-! The journal as lines. A printed value never holds a character below the space: in strings they
are escaped, and nothing else that is printed contains one. So the octets of an entry are one line,
and octets of several entries are cut into their lines by the line feeds. -/
namespace Verdict

/-- A character from the space on: none of the control characters that JSON bars from strings. -/
def Visible (character : Char) : Prop := 0x20 ≤ character.toNat

instance (character : Char) : Decidable (Visible character) :=
  Nat.decLe 0x20 character.toNat

/-- A fixed word is seen to be without control characters by looking at each of its characters. -/
private theorem visible_of_all {word : List Char} (all : word.all (decide <| Visible ·) = true) :
    ∀ character ∈ word, Visible character :=
  fun character member => of_decide_eq_true (List.all_eq_true.mp all character member)

/-! ### Numbers -/

private theorem visible_of_isDigit {character : Char} (digit : character.isDigit = true) :
    Visible character := by
  simp only [Char.isDigit, Bool.and_eq_true, decide_eq_true_eq, ge_iff_le,
    UInt32.le_iff_toNat_le] at digit
  have least : 48 ≤ character.toNat := digit.1
  unfold Visible
  omega

private theorem visible_toDigits (number : Nat) :
    ∀ character ∈ Nat.toDigits 10 number, Visible character :=
  fun _ member => visible_of_isDigit (isDigit_toDigits member)

private theorem visible_toString (number : Int) :
    ∀ character ∈ (toString number).toList, Visible character := by
  rw [toList_toString, List.forall_mem_append]
  refine ⟨?_, visible_toDigits number.natAbs⟩
  split
  · exact visible_of_all (by decide)
  · exact List.forall_mem_nil _

namespace NumberLayout

variable {layout : NumberLayout}

private theorem visible_positionalText
    (ending : ∀ character ∈ layout.wholeEnding.toList, Visible character)
    (decimal : Decimal) : ∀ character ∈ layout.positionalText decimal, Visible character := by
  have digits := visible_toDigits decimal.digits
  have zero : Visible '0' := by decide
  have point : Visible '.' := by decide
  have zeros (count : Nat) : ∀ character ∈ List.replicate count '0', Visible character :=
    fun _ member => List.eq_of_mem_replicate member ▸ zero
  unfold positionalText
  simp only
  split
  · simp only [List.forall_mem_append]
    exact ⟨⟨digits, zeros _⟩, ending⟩
  · split
    · simp only [List.forall_mem_append, List.forall_mem_cons]
      exact ⟨fun _ member => digits _ (List.mem_of_mem_take member), point,
        fun _ member => digits _ (List.mem_of_mem_drop member)⟩
    · simp only [List.forall_mem_append, List.forall_mem_cons]
      exact ⟨⟨zero, point, zeros _⟩, digits⟩

private theorem visible_scientificText (decimal : Decimal) (leading : Int) :
    ∀ character ∈ scientificText decimal leading, Visible character := by
  have digits := visible_toDigits decimal.digits
  have exponent := visible_toDigits leading.natAbs
  have point : Visible '.' := by decide
  unfold scientificText
  simp only [List.forall_mem_append, List.forall_mem_cons]
  refine ⟨?_, by decide, by split <;> decide, exponent⟩
  split
  next => exact List.forall_mem_nil _
  next digit same => exact same ▸ digits
  next digit rest more same =>
    have both : ∀ character ∈ digit :: rest, Visible character := same ▸ digits
    simp only [List.forall_mem_cons] at both ⊢
    exact ⟨both.1, point, both.2⟩

/-- A layout whose words are without control characters writes none. -/
private theorem visible_text (ending : ∀ character ∈ layout.wholeEnding.toList, Visible character)
    (nan : ∀ character ∈ layout.notANumber.toList, Visible character)
    (positive : ∀ character ∈ layout.infinity.toList, Visible character)
    (negative : ∀ character ∈ layout.negativeInfinity.toList, Visible character)
    (number : Binary64) : ∀ character ∈ (layout.text number).toList, Visible character := by
  have sign : ∀ character ∈ (if number.isNegative then ['-'] else []), Visible character := by
    split <;> exact visible_of_all (by decide)
  unfold text
  split
  · exact nan
  · split
    · split <;> assumption
    · rw [String.toList_ofList, List.forall_mem_append]
      refine ⟨sign, ?_⟩
      split
      · rw [List.forall_mem_cons]
        exact ⟨by decide, ending⟩
      · simp only
        split
        · exact visible_positionalText ending _
        · exact visible_scientificText _ _

end NumberLayout

/-! ### Values -/

namespace Json

private theorem visible_unitEscape (unit : Nat) :
    ∀ character ∈ unitEscape unit, Visible character := by
  have digit (number : Nat) : Visible (hexDigit (number % 16)) := by
    have all : ∀ value : Fin 16, Visible (hexDigit value) := by decide
    exact all ⟨number % 16, Nat.mod_lt _ (by decide)⟩
  have backslash : Visible '\\' := by decide
  have letter : Visible 'u' := by decide
  simp [unitEscape, digit, backslash, letter]

private theorem visible_plainCharacter (character : Char) :
    ∀ written ∈ plainCharacter character, Visible written := by
  unfold plainCharacter
  split
  next escape found =>
    unfold shortEscape? at found
    split at found <;> cases found
    all_goals exact visible_of_all (by decide)
  next unescaped =>
    split
    next control => exact visible_unitEscape _
    next visible => simpa [Visible] using visible

private theorem visible_quote (text : String) :
    ∀ character ∈ quote text, Visible character := by
  have mark : Visible '"' := by decide
  simp only [quote, List.forall_mem_cons, List.forall_mem_append, List.mem_flatMap]
  refine ⟨mark, ?_, mark, List.forall_mem_nil _⟩
  rintro written ⟨character, -, member⟩
  exact visible_plainCharacter character written member

mutual

private theorem visible_chars : ∀ value : Json, ∀ character ∈ value.chars, Visible character
  | .null => visible_of_all (by decide)
  | .bool true => visible_of_all (by decide)
  | .bool false => visible_of_all (by decide)
  | .int value => visible_toString value
  | .float value =>
    NumberLayout.visible_text (visible_of_all (by decide)) (visible_of_all (by decide))
      (visible_of_all (by decide)) (visible_of_all (by decide)) value
  | .str text => visible_quote text
  | .arr items => by
    have first : Visible '[' := by decide
    have last : Visible ']' := by decide
    simpa [chars, first, last, or_imp, forall_and] using visible_itemChars items
  | .obj members => by
    have first : Visible '\x7b' := by decide
    have last : Visible '\x7d' := by decide
    simpa [chars, first, last, or_imp, forall_and] using visible_memberChars members

private theorem visible_itemChars :
    ∀ items : List Json, ∀ character ∈ itemChars items, Visible character
  | [] => List.forall_mem_nil _
  | [item] => visible_chars item
  | item :: next :: rest => by
    have comma : Visible ',' := by decide
    rw [itemChars, List.forall_mem_append, List.forall_mem_cons]
    · exact ⟨visible_chars item, comma, visible_itemChars (next :: rest)⟩
    · exact List.cons_ne_nil next rest

private theorem visible_memberChars : ∀ members : List (String × Json),
    ∀ character ∈ memberChars members, Visible character
  | [] => List.forall_mem_nil _
  | [(name, value)] => by
    have colon : Visible ':' := by decide
    rw [memberChars, List.forall_mem_append, List.forall_mem_cons]
    exact ⟨visible_quote name, colon, visible_chars value⟩
  | (name, value) :: next :: rest => by
    have colon : Visible ':' := by decide
    have comma : Visible ',' := by decide
    rw [memberChars, List.forall_mem_append, List.forall_mem_append, List.forall_mem_cons,
      List.forall_mem_cons]
    · exact ⟨⟨visible_quote name, colon, visible_chars value⟩, comma,
        visible_memberChars (next :: rest)⟩
    · exact List.cons_ne_nil next rest

end

end Json

/-! ### Octets -/

namespace Utf8

/-- An octet of ASCII is the whole encoding of the character with its code: every octet of a longer
encoding has its highest bit set. -/
private theorem toNat_eq_of_mem_utf8EncodeChar {character : Char} {octet : UInt8}
    (member : octet ∈ String.utf8EncodeChar character) (narrow : octet.toNat < 0x80) :
    character.toNat = octet.toNat := by
  have wide (value : Nat) {modulus bits : Nat} (some : 0 < modulus) (large : 128 ≤ bits)
      (fits : modulus + bits ≤ 256) : octet ≠ UInt8.ofNat (value % modulus + bits) := by
    intro same
    have code : octet.toNat = (value % modulus + bits) % 256 := congrArg UInt8.toNat same
    have below := Nat.mod_lt value some
    omega
  unfold String.utf8EncodeChar at member
  simp only at member
  split at member
  next short =>
    have code : octet.toNat = character.val.toNat % 256 :=
      congrArg UInt8.toNat (List.mem_singleton.mp member)
    change character.val.toNat = octet.toNat
    omega
  next long =>
    have last (value : Nat) := wide value (by decide : 0 < 64) (by decide : 128 ≤ 128) (by decide)
    have two (value : Nat) := wide value (by decide : 0 < 32) (by decide : 128 ≤ 192) (by decide)
    have three (value : Nat) := wide value (by decide : 0 < 16) (by decide : 128 ≤ 224) (by decide)
    have four (value : Nat) := wide value (by decide : 0 < 8) (by decide : 128 ≤ 240) (by decide)
    split at member
    · simp only [List.mem_cons, List.not_mem_nil, two, last, or_self] at member
    · split at member
      · simp only [List.mem_cons, List.not_mem_nil, three, last, or_self] at member
      · simp only [List.mem_cons, List.not_mem_nil, four, last, or_self] at member

end Utf8

namespace Entry

/-- The line of an entry, without its end. -/
def line (entry : Entry) : List UInt8 := Utf8.encode entry.chars

theorem le_of_mem_line {entry : Entry} {octet : UInt8} (member : octet ∈ entry.line) :
    0x20 ≤ octet.toNat := by
  obtain ⟨character, present, encoded⟩ := List.mem_flatMap.mp member
  by_cases narrow : octet.toNat < 0x80
  · rw [← Utf8.toNat_eq_of_mem_utf8EncodeChar encoded narrow]
    exact Json.visible_chars _ character present
  · omega

theorem lineFeed_not_mem_line (entry : Entry) : Utf8.lineFeed ∉ entry.line :=
  fun member => absurd (le_of_mem_line member) (by decide)

theorem octets_eq (entry : Entry) : entry.octets = entry.line ++ [Utf8.lineFeed] := by
  rw [octets, line, Utf8.encode, List.flatMap_append]
  rfl

end Entry

/-- Entries written one after the other are cut into their lines by the line feeds, and nothing is
left behind the last one. -/
theorem pieces_flatMap_octets (entries : List Entry) :
    pieces Utf8.lineFeed (entries.flatMap Entry.octets) = entries.map Entry.line ++ [[]] := by
  induction entries with
  | nil => rfl
  | cons entry entries ih =>
    rw [List.flatMap_cons, Entry.octets_eq, List.append_assoc, List.singleton_append,
      pieces_append_separator entry.lineFeed_not_mem_line, ih]
    rfl

end Verdict
