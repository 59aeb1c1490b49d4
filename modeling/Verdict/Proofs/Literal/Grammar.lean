import Verdict.Literal
/-! The grammar of mapping literals. Every rule relates the whole text of a construct to what the
construct stands for; no rule mentions a reader, what is left after one, or how much it takes. A
text may stand for several things only if two derivations say so. -/
namespace Verdict.Literal

/-- What may stand between any two tokens. -/
def Spaces (text : List Char) : Prop :=
  ∀ character ∈ text, character ∈ [' ', '\t', '\r', '\n']

/-- The characters to which a backslash gives a meaning, each with that meaning. -/
def escapes : List (Char × Char) :=
  [('n', '\n'), ('t', '\t'), ('r', '\r'), ('0', '\x00'), ('\\', '\\'), ('\'', '\''), ('"', '"')]

/-- What a backslash and a character stand for: the meaning if there is one, otherwise both
characters as they are. -/
inductive Escape (escaped : Char) : List Char → Prop where
  | known {meaning : Char} (listed : (escaped, meaning) ∈ escapes) : Escape escaped [meaning]
  | unknown (unlisted : ∀ meaning, (escaped, meaning) ∉ escapes) :
      Escape escaped ['\\', escaped]

/-- The text between two quotes of one kind, and the characters that it stands for. -/
inductive QuotedBody (quote : Char) : List Char → List Char → Prop where
  | nil : QuotedBody quote [] []
  | plain {character : Char} {text value : List Char} (bare : character ≠ '\\')
      (inside : character ≠ quote) (rest : QuotedBody quote text value) :
      QuotedBody quote (character :: text) (character :: value)
  | escape {escaped : Char} {meaning text value : List Char} (escape : Escape escaped meaning)
      (rest : QuotedBody quote text value) :
      QuotedBody quote ('\\' :: escaped :: text) (meaning ++ value)

/-- A string in single or double quotes. -/
inductive TextLiteral : List Char → String → Prop where
  | quoted {quote : Char} {body value : List Char} (known : quote ∈ ['\'', '"'])
      (inside : QuotedBody quote body value) :
      TextLiteral (quote :: (body ++ [quote])) (String.ofList value)

/-- A word that stands for a truth value or for nothing. -/
inductive KeywordLiteral : List Char → Plain → Prop where
  | true : KeywordLiteral "True".toList (.bool true)
  | false : KeywordLiteral "False".toList (.bool false)
  | none : KeywordLiteral "None".toList .nothing

/-- A word over the characters of numbers that is an integer of 64 bits, or else a finite
decimal. -/
inductive NumberLiteral (word : List Char) : Plain → Prop where
  | integer {value : Int} (nonempty : word ≠ [])
      (letters : ∀ character ∈ word, character ∈ "0123456789+-.eE".toList)
      (reads : readInt64? word = some value) : NumberLiteral word (.int value)
  | decimal {value : Binary64} (nonempty : word ≠ [])
      (letters : ∀ character ∈ word, character ∈ "0123456789+-.eE".toList)
      (noInteger : readInt64? word = none) (reads : readDecimal? word = some value)
      (finite : value.isFinite = true) : NumberLiteral word (.float value)

inductive PlainLiteral : List Char → Plain → Prop where
  | text {text : List Char} {value : String} (string : TextLiteral text value) :
      PlainLiteral text (.text value)
  | keyword {text : List Char} {value : Plain} (keyword : KeywordLiteral text value) :
      PlainLiteral text value
  | number {text : List Char} {value : Plain} (number : NumberLiteral text value) :
      PlainLiteral text value

section
variable {α : Type}

/-- A name, a colon and a value. -/
inductive EntryLiteral (Value : List Char → α → Prop) : List Char → String × α → Prop where
  | entry {key before after text : List Char} {name : String} {value : α}
      (string : TextLiteral key name) (left : Spaces before) (right : Spaces after)
      (stands : Value text value) :
      EntryLiteral Value (key ++ before ++ ':' :: (after ++ text)) (name, value)

/-- Further items, each after a comma. -/
inductive FurtherItems (Item : List Char → α → Prop) : List Char → List α → Prop where
  | nil : FurtherItems Item [] []
  | cons {before after text rest : List Char} {item : α} {items : List α}
      (left : Spaces before) (right : Spaces after) (stands : Item text item)
      (further : FurtherItems Item rest items) :
      FurtherItems Item (before ++ ',' :: (after ++ (text ++ rest))) (item :: items)

/-- What may stand after the last entry: nothing, or a comma. -/
inductive LastComma : List Char → Prop where
  | absent : LastComma []
  | present {before : List Char} (left : Spaces before) : LastComma (before ++ [','])

/-- Entries in braces. Only after at least one entry may a comma precede the closing brace. -/
inductive MappingLiteral (Value : List Char → α → Prop) :
    List Char → List (String × α) → Prop where
  | empty {before after : List Char} (left : Spaces before) (right : Spaces after) :
      MappingLiteral Value ('{' :: (before ++ (after ++ ['}']))) []
  | entries {before text more comma after : List Char} {entry : String × α}
      {others : List (String × α)} (left : Spaces before)
      (first : EntryLiteral Value text entry)
      (further : FurtherItems (EntryLiteral Value) more others)
      (last : LastComma comma) (right : Spaces after) :
      MappingLiteral Value ('{' :: (before ++ (text ++ (more ++ (comma ++ (after ++ ['}']))))))
        (entry :: others)

end

/-- The value of an entry: a plain one, or a mapping of plain ones. -/
inductive ValueLiteral : List Char → Literal → Prop where
  | plain {text : List Char} {value : Plain} (stands : PlainLiteral text value) :
      ValueLiteral text (.plain value)
  | mapping {text : List Char} {entries : List (String × Plain)}
      (stands : MappingLiteral PlainLiteral text entries) : ValueLiteral text (.mapping entries)

/-- A mapping and nothing else but space around it. -/
inductive WholeLiteral : List Char → List (String × Literal) → Prop where
  | whole {before text after : List Char} {entries : List (String × Literal)}
      (left : Spaces before) (stands : MappingLiteral ValueLiteral text entries)
      (right : Spaces after) : WholeLiteral (before ++ (text ++ after)) entries

/-! ### Characters and words -/

theorem isSpace_iff {character : Char} :
    isSpace character = true ↔ character ∈ [' ', '\t', '\r', '\n'] := by
  simp [isSpace, or_assoc]

private theorem digit_is_listed {character : Char} (digit : character.isDigit = true) :
    character ∈ "0123456789+-.eE".toList := by
  obtain ⟨low, high⟩ := Char.isDigit_iff_toNat.mp digit
  rw [← Char.ofNat_toNat character]
  have listed : ∀ code, code < 58 → 48 ≤ code → Char.ofNat code ∈ "0123456789+-.eE".toList := by
    decide
  exact listed _ (Nat.lt_succ_of_le high) low

theorem isNumberCharacter_iff {character : Char} :
    isNumberCharacter character = true ↔ character ∈ "0123456789+-.eE".toList := by
  constructor
  · intro number
    simp only [isNumberCharacter, Bool.or_eq_true, beq_iff_eq] at number
    rcases number with ((((digit | rfl) | rfl) | rfl) | rfl) | rfl
    · exact digit_is_listed digit
    all_goals decide
  · have all : "0123456789+-.eE".toList.all isNumberCharacter = true := by decide
    exact List.all_eq_true.mp all character

private theorem unescape_listed : ∀ escape ∈ escapes, unescape escape.1 = [escape.2] := by
  decide

private theorem unescape_unlisted {escaped : Char}
    (unlisted : ∀ meaning, (escaped, meaning) ∉ escapes) :
    unescape escaped = ['\\', escaped] := by
  fun_cases unescape escaped
  case case8 => rfl
  all_goals simp [escapes] at unlisted

/-- A backslash and a character stand for one thing, the one that the reader gives. -/
theorem escape_iff {escaped : Char} {meaning : List Char} :
    Escape escaped meaning ↔ meaning = unescape escaped := by
  constructor
  · rintro (listed | unlisted)
    · exact (unescape_listed _ listed).symm
    · exact (unescape_unlisted unlisted).symm
  · rintro rfl
    by_cases listed : ∃ meaning, (escaped, meaning) ∈ escapes
    · obtain ⟨meaning, listed⟩ := listed
      rw [unescape_listed _ listed]
      exact .known listed
    · have unlisted := not_exists.mp listed
      rw [unescape_unlisted unlisted]
      exact .unknown unlisted

theorem numberLiteral_iff {word : List Char} {value : Plain} :
    NumberLiteral word value ↔
      word ≠ [] ∧ (∀ character ∈ word, isNumberCharacter character = true) ∧
        numberOfWord word = some value := by
  simp only [isNumberCharacter_iff]
  constructor
  · rintro (⟨nonempty, letters, reads⟩ | ⟨nonempty, letters, noInteger, reads, finite⟩)
    · exact ⟨nonempty, letters, by simp [numberOfWord, reads]⟩
    · exact ⟨nonempty, letters, by simp [numberOfWord, noInteger, reads, finite]⟩
  · rintro ⟨nonempty, letters, reads⟩
    unfold numberOfWord at reads
    split at reads
    · rename_i integer found
      cases reads
      exact .integer nonempty letters found
    · rename_i noInteger
      obtain ⟨decimal, found, rfl⟩ := Option.map_eq_some_iff.mp reads
      obtain ⟨found, finite⟩ := Option.filter_eq_some_iff.mp found
      exact .decimal nonempty letters noInteger found finite

end Verdict.Literal
