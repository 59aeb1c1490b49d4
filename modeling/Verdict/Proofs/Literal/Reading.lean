import Verdict.Proofs.Literal.Grammar
import Mathlib.Data.List.TakeDrop
import Mathlib.Data.List.TakeWhile
/-! The reader of mapping literals accepts exactly the texts of the grammar. It is greedy and never
reconsiders a choice, so two things are at stake: what it takes must be a text of the grammar, and
nothing that it takes too early or gives up too soon may cost a derivation. Both are carried through
the productions by one relation between a reader and a rule. -/
namespace Verdict.Literal

/-- No number goes on into this text. -/
def EndsNumber (text : List Char) : Prop :=
  ∀ character ∈ text.head?, isNumberCharacter character = false

/-- A reader follows a rule: what it takes off a text is a construct of the rule, and it takes every
such construct as a whole unless a number might go on behind it. No construct begins with space. -/
structure Follows {α : Type} (read : List Char → Option (α × List Char))
    (Rule : List Char → α → Prop) : Prop where
  sound {text rest : List Char} {value : α} (found : read text = some (value, rest)) :
    ∃ taken, text = taken ++ rest ∧ Rule taken value
  complete {taken rest : List Char} {value : α} (stands : Rule taken value)
    (ends : EndsNumber rest) : read (taken ++ rest) = some (value, rest)
  solid {taken : List Char} {value : α} (stands : Rule taken value) :
    ∃ head tail, taken = head :: tail ∧ isSpace head = false

/-! ### Space -/

theorem skipSpace_cons {character : Char} (visible : isSpace character = false)
    (rest : List Char) : skipSpace (character :: rest) = character :: rest := by
  simp [skipSpace, visible]

theorem skipSpace_spaces {spaces : List Char} (blank : Spaces spaces) (rest : List Char) :
    skipSpace (spaces ++ rest) = skipSpace rest := by
  unfold skipSpace
  rw [List.dropWhile_append_of_pos]
  exact fun character member => isSpace_iff.mpr (blank character member)

private theorem skipSpace_token {spaces : List Char} (blank : Spaces spaces) {character : Char}
    (visible : isSpace character = false) (rest : List Char) :
    skipSpace (spaces ++ character :: rest) = character :: rest := by
  rw [skipSpace_spaces blank, skipSpace_cons visible]

/-- What is skipped is space, and nothing else is lost. -/
theorem skipSpace_split (text : List Char) :
    ∃ spaces, Spaces spaces ∧ text = spaces ++ skipSpace text := by
  refine ⟨text.takeWhile isSpace, fun character member => ?_, ?_⟩
  · exact isSpace_iff.mp (List.mem_takeWhile_imp member)
  · exact List.takeWhile_append_dropWhile.symm

/-- Skipping stops where a construct begins. -/
theorem Follows.skipSpace_taken {α : Type} {read : List Char → Option (α × List Char)}
    {Rule : List Char → α → Prop} (follows : Follows read Rule) {spaces taken : List Char}
    {value : α} (blank : Spaces spaces) (stands : Rule taken value) (rest : List Char) :
    skipSpace (spaces ++ (taken ++ rest)) = taken ++ rest := by
  obtain ⟨head, tail, rfl, visible⟩ := follows.solid stands
  exact skipSpace_token blank visible (tail ++ rest)

private theorem endsNumber_cons {character : Char} (other : isNumberCharacter character = false)
    (rest : List Char) : EndsNumber (character :: rest) := by
  simpa [EndsNumber] using other

private theorem endsNumber_spaces {spaces rest : List Char} (blank : Spaces spaces)
    (ends : EndsNumber rest) : EndsNumber (spaces ++ rest) := by
  cases spaces with
  | nil => exact ends
  | cons space spaces =>
    have apart : ∀ space ∈ [' ', '\t', '\r', '\n'], isNumberCharacter space = false := by
      simp [isNumberCharacter]
    exact endsNumber_cons (apart space (blank space List.mem_cons_self)) _

private theorem endsNumber_token {spaces : List Char} (blank : Spaces spaces) {character : Char}
    (other : isNumberCharacter character = false) (rest : List Char) :
    EndsNumber (spaces ++ character :: rest) :=
  endsNumber_spaces blank (endsNumber_cons other rest)

/-! ### Strings, keywords and numbers -/

private theorem readQuoted_sound {quote : Char} {text value rest : List Char}
    (found : readQuoted quote text = some (value, rest)) :
    ∃ body, text = body ++ quote :: rest ∧ QuotedBody quote body value := by
  fun_induction readQuoted quote text generalizing value rest with
  | case1 => cases found
  | case2 => cases found
  | case3 escaped text ih =>
    obtain ⟨⟨inner, left⟩, read, same⟩ := Option.map_eq_some_iff.mp found
    cases same
    obtain ⟨body, rfl, inside⟩ := ih read
    exact ⟨'\\' :: escaped :: body, rfl, .escape (escape_iff.mpr rfl) inside⟩
  | case4 text =>
    cases found
    exact ⟨[], rfl, .nil⟩
  | case5 character text last before different ih =>
    obtain ⟨⟨inner, left⟩, read, same⟩ := Option.map_eq_some_iff.mp found
    cases same
    -- A backslash has been dealt with before, unless it is the last character of all.
    have bare : character ≠ '\\' := by
      intro backslash
      cases text with
      | nil => exact last backslash rfl
      | cons escaped text => exact before escaped text backslash rfl
    obtain ⟨body, rfl, inside⟩ := ih read
    exact ⟨character :: body, rfl, .plain bare different inside⟩

private theorem readQuoted_complete {quote : Char} (bare : quote ≠ '\\') {body value : List Char}
    (inside : QuotedBody quote body value) (rest : List Char) :
    readQuoted quote (body ++ quote :: rest) = some (value, rest) := by
  induction inside with
  | nil => simp [readQuoted, bare]
  | plain unescaped different below ih => simp [readQuoted, unescaped, different, ih]
  | escape escape below ih => simp [readQuoted, escape_iff.mp escape, ih]

private theorem readText_sound {text rest : List Char} {value : String}
    (found : readText text = some (value, rest)) :
    ∃ taken, text = taken ++ rest ∧ TextLiteral taken value := by
  fun_cases readText text with
  | case1 inner | case2 inner =>
    simp only [readText] at found
    obtain ⟨⟨characters, left⟩, read, same⟩ := Option.map_eq_some_iff.mp found
    cases same
    obtain ⟨body, rfl, inside⟩ := readQuoted_sound read
    exact ⟨_, by simp, .quoted (by decide) inside⟩
  | case3 other single double => simp [readText] at found

private theorem readText_complete {taken : List Char} {value : String}
    (stands : TextLiteral taken value) (rest : List Char) :
    readText (taken ++ rest) = some (value, rest) := by
  obtain ⟨known, inside⟩ := stands
  rename_i quote body characters
  simp only [List.mem_cons, List.not_mem_nil, or_false] at known
  rcases known with rfl | rfl
  · have read := readQuoted_complete (by decide) inside rest
    simp [readText, read]
  · have read := readQuoted_complete (by decide) inside rest
    simp [readText, read]

private theorem readText_cons_eq_none {character : Char} (other : character ∉ ['\'', '"'])
    (rest : List Char) : readText (character :: rest) = none := by
  simp only [List.mem_cons, List.not_mem_nil, or_false, not_or] at other
  simp [readText, other.1, other.2]

private theorem textLiteral_head {taken : List Char} {value : String}
    (stands : TextLiteral taken value) :
    ∃ head tail, taken = head :: tail ∧ head ∈ ['\'', '"'] := by
  obtain ⟨known, inside⟩ := stands
  exact ⟨_, _, rfl, known⟩

private theorem readKeyword_sound {text rest : List Char} {value : Plain}
    (found : readKeyword text = some (value, rest)) :
    ∃ taken, text = taken ++ rest ∧ KeywordLiteral taken value := by
  obtain ⟨⟨word, meaning⟩, first, same⟩ := Option.map_eq_some_iff.mp found
  cases same
  have isPrefix := List.find?_some first
  obtain ⟨rest, rfl⟩ := List.isPrefixOf_iff_prefix.mp isPrefix
  refine ⟨word.toList, by simp, ?_⟩
  have listed := List.mem_of_find?_eq_some first
  simp only [keywords, List.mem_cons, Prod.mk.injEq, List.not_mem_nil, or_false] at listed
  rcases listed with ⟨rfl, rfl⟩ | ⟨rfl, rfl⟩ | ⟨rfl, rfl⟩
  · exact .true
  · exact .false
  · exact .none

private theorem readKeyword_complete {taken : List Char} {value : Plain}
    (stands : KeywordLiteral taken value) (rest : List Char) :
    readKeyword (taken ++ rest) = some (value, rest) := by
  cases stands <;> simp [readKeyword, keywords]

private theorem readKeyword_cons_eq_none {character : Char} (other : character ∉ ['T', 'F', 'N'])
    (rest : List Char) : readKeyword (character :: rest) = none := by
  simp only [List.mem_cons, List.not_mem_nil, or_false, not_or] at other
  simp [readKeyword, keywords, Ne.symm other.1, Ne.symm other.2.1, Ne.symm other.2.2]

private theorem readNumber_sound {text rest : List Char} {value : Plain}
    (found : readNumber text = some (value, rest)) :
    ∃ taken, text = taken ++ rest ∧ NumberLiteral taken value := by
  simp only [readNumber, List.span_eq_takeWhile_dropWhile] at found
  split at found
  · cases found
  · rename_i nonempty
    obtain ⟨number, reads, same⟩ := Option.map_eq_some_iff.mp found
    cases same
    refine ⟨text.takeWhile isNumberCharacter, List.takeWhile_append_dropWhile.symm, ?_⟩
    exact numberLiteral_iff.mpr ⟨by simpa using nonempty,
      fun character member => List.mem_takeWhile_imp member, reads⟩

private theorem readNumber_complete {taken rest : List Char} {value : Plain}
    (stands : NumberLiteral taken value) (ends : EndsNumber rest) :
    readNumber (taken ++ rest) = some (value, rest) := by
  obtain ⟨nonempty, letters, reads⟩ := numberLiteral_iff.mp stands
  have stop : rest.takeWhile isNumberCharacter = [] ∧ rest.dropWhile isNumberCharacter = rest := by
    cases rest with
    | nil => exact ⟨rfl, rfl⟩
    | cons character rest =>
      have other : isNumberCharacter character = false := ends character rfl
      simp [other]
  simp [readNumber, List.span_eq_takeWhile_dropWhile, List.takeWhile_append_of_pos letters,
    List.dropWhile_append_of_pos letters, stop.1, stop.2, nonempty, reads]

theorem quotes_visible : ∀ quote ∈ ['\'', '"'],
    isSpace quote = false ∧ quote ≠ '{' := by
  simp [isSpace]

private theorem number_letters_apart : ∀ letter ∈ "0123456789+-.eE".toList,
    letter ∉ ['\'', '"'] ∧ letter ∉ ['T', 'F', 'N'] ∧ isSpace letter = false ∧ letter ≠ '{' := by
  simp [isSpace]

private theorem plainLiteral_head {taken : List Char} {value : Plain}
    (stands : PlainLiteral taken value) :
    ∃ head tail, taken = head :: tail ∧ isSpace head = false ∧ head ≠ '{' := by
  cases stands with
  | text string =>
    obtain ⟨head, tail, rfl, quote⟩ := textLiteral_head string
    exact ⟨head, tail, rfl, quotes_visible head quote⟩
  | keyword keyword => cases keyword <;> exact ⟨_, _, rfl, by decide⟩
  | number number =>
    obtain ⟨nonempty, letters, -⟩ := numberLiteral_iff.mp number
    obtain ⟨head, tail, rfl⟩ := List.exists_cons_of_ne_nil nonempty
    have listed := isNumberCharacter_iff.mp (letters head List.mem_cons_self)
    exact ⟨head, tail, rfl, (number_letters_apart head listed).2.2⟩

/-- A plain value begins with a quote, with a capital of a keyword or with a character of numbers,
and the three never meet: the order in which they are tried does not matter. -/
theorem readPlain_follows : Follows readPlain PlainLiteral where
  sound {text rest value} found := by
    unfold readPlain at found
    split at found
    · rename_i string left read
      cases found
      obtain ⟨taken, rfl, stands⟩ := readText_sound read
      exact ⟨taken, rfl, .text stands⟩
    · split at found
      · rename_i keyword read
        cases found
        obtain ⟨taken, rfl, stands⟩ := readKeyword_sound read
        exact ⟨taken, rfl, .keyword stands⟩
      · obtain ⟨taken, rfl, stands⟩ := readNumber_sound found
        exact ⟨taken, rfl, .number stands⟩
  complete {taken rest value} stands ends := by
    cases stands with
    | text string => simp [readPlain, readText_complete string]
    | keyword keyword =>
      have noText : readText (taken ++ rest) = none := by
        cases keyword <;> exact readText_cons_eq_none (by decide) _
      simp [readPlain, noText, readKeyword_complete keyword]
    | number number =>
      have read := readNumber_complete number ends
      obtain ⟨nonempty, letters, -⟩ := numberLiteral_iff.mp number
      obtain ⟨head, tail, rfl⟩ := List.exists_cons_of_ne_nil nonempty
      obtain ⟨noQuote, noCapital, -⟩ := number_letters_apart _
        (isNumberCharacter_iff.mp (letters head List.mem_cons_self))
      have noText : readText (head :: tail ++ rest) = none := readText_cons_eq_none noQuote _
      have noKeyword : readKeyword (head :: tail ++ rest) = none :=
        readKeyword_cons_eq_none noCapital _
      simp only [readPlain, noText, noKeyword, read]
  solid {taken value} stands := by
    obtain ⟨head, tail, spelled, visible, -⟩ := plainLiteral_head stands
    exact ⟨head, tail, spelled, visible⟩

/-! ### Entries and what follows them -/

section
variable {α : Type} {readItem : List Char → Option (α × List Char)}
  {Item : List Char → α → Prop}

theorem readEntry_follows (value : Follows readItem Item) :
    Follows (readEntry readItem) (EntryLiteral Item) where
  sound {text rest entry} found := by
    unfold readEntry at found
    split at found
    · cases found
    · rename_i name afterName readName
      obtain ⟨key, rfl, string⟩ := readText_sound readName
      obtain ⟨before, left, eq⟩ := skipSpace_split afterName
      split at found
      · rename_i afterColon colon
        obtain ⟨⟨worth, behind⟩, readValue, same⟩ := Option.map_eq_some_iff.mp found
        cases same
        obtain ⟨after, right, split⟩ := skipSpace_split afterColon
        obtain ⟨taken, spelled, stands⟩ := value.sound readValue
        refine ⟨key ++ before ++ ':' :: (after ++ taken), ?_, .entry string left right stands⟩
        rw [eq, colon, split, spelled]
        simp
      · cases found
  complete {taken rest entry} stands ends := by
    obtain ⟨string, left, right, stands⟩ := stands
    rename_i key before after text name worth
    have colon : skipSpace (before ++ ':' :: (after ++ (text ++ rest))) =
        ':' :: (after ++ (text ++ rest)) := skipSpace_token left (by decide) _
    have start : skipSpace (after ++ (text ++ rest)) = text ++ rest :=
      value.skipSpace_taken right stands rest
    have read := readText_complete string (before ++ ':' :: (after ++ (text ++ rest)))
    simp [readEntry, read, colon, start, value.complete stands ends]
  solid {taken entry} stands := by
    obtain ⟨string, left, right, stands⟩ := stands
    obtain ⟨head, tail, rfl, quote⟩ := textLiteral_head string
    exact ⟨head, _, rfl, (quotes_visible head quote).1⟩

theorem skipSpace_comma {before : List Char} (left : Spaces before) (rest : List Char) :
    skipSpace (before ++ ',' :: rest) = ',' :: rest := skipSpace_token left (by decide) rest

private theorem readNext_sound (item : Follows readItem Item) {text rest : List Char} {value : α}
    (found : readNext readItem text = some (value, rest)) :
    ∃ before after taken, Spaces before ∧ Spaces after ∧ Item taken value ∧
      text = before ++ ',' :: (after ++ (taken ++ rest)) := by
  unfold readNext at found
  obtain ⟨before, left, eq⟩ := skipSpace_split text
  split at found
  · rename_i afterComma comma
    obtain ⟨after, right, split⟩ := skipSpace_split afterComma
    obtain ⟨taken, spelled, stands⟩ := item.sound found
    exact ⟨before, after, taken, left, right, stands, by rw [eq, comma, split, spelled]⟩
  · cases found

private theorem readNext_complete (item : Follows readItem Item)
    {before after taken rest : List Char}
    {value : α} (left : Spaces before) (right : Spaces after) (stands : Item taken value)
    (ends : EndsNumber rest) :
    readNext readItem (before ++ ',' :: (after ++ (taken ++ rest))) = some (value, rest) := by
  have start : skipSpace (after ++ (taken ++ rest)) = taken ++ rest :=
    item.skipSpace_taken right stands rest
  simp [readNext, skipSpace_comma left, start, item.complete stands ends]

theorem readFurther_sound (item : Follows readItem Item) {text rest : List Char}
    {items : List α} (found : readFurther readItem text = (items, rest)) :
    ∃ taken, text = taken ++ rest ∧ FurtherItems Item taken items := by
  fun_induction readFurther readItem text generalizing items rest with
  | case1 text none =>
    cases found
    exact ⟨[], rfl, .nil⟩
  | case2 text value behind read shorter others last more ih =>
    cases found
    obtain ⟨before, after, taken, left, right, stands, rfl⟩ := readNext_sound item read
    obtain ⟨further, rfl, rule⟩ := ih more
    exact ⟨_, by simp, .cons left right stands rule⟩
  | case3 text value behind read longer =>
    cases found
    exact ⟨[], rfl, .nil⟩

/-- Behind an item stands a space, a comma or the end of the items: no number goes on there. -/
theorem endsNumber_further {text rest : List Char} {items : List α}
    (further : FurtherItems Item text items) (ends : EndsNumber rest) :
    EndsNumber (text ++ rest) := by
  cases further with
  | nil => exact ends
  | cons left right stands further =>
    rw [List.append_assoc]
    exact endsNumber_token left (by decide) _

/-- Items are taken from the front; where no number goes on behind them, reading then goes on with
what follows. -/
theorem readFurther_append (item : Follows readItem Item) {text rest : List Char} {items : List α}
    (further : FurtherItems Item text items) (ends : EndsNumber rest) :
    readFurther readItem (text ++ rest) =
      (items ++ (readFurther readItem rest).1, (readFurther readItem rest).2) := by
  induction further with
  | nil => rfl
  | @cons before after taken more value items left right stands further ih =>
    have read := readNext_complete item left right stands (endsNumber_further further ends)
    have spelled : before ++ ',' :: (after ++ (taken ++ more)) ++ rest =
        before ++ ',' :: (after ++ (taken ++ (more ++ rest))) := by simp
    rw [spelled, readFurther, read]
    simp only [ih]
    -- The reader asks that a round leaves less text; the comma alone is enough for that.
    have shorter : (more ++ rest).length <
        (before ++ ',' :: (after ++ (taken ++ (more ++ rest)))).length := by
      simp only [List.length_append, List.length_cons]
      omega
    rw [if_pos shorter, List.cons_append]

private theorem readFurther_of_none {text : List Char} (stuck : readNext readItem text = none) :
    readFurther readItem text = ([], text) := by
  rw [readFurther, stuck]

/-- Items are taken until no further one can be: a rule that ends earlier would leave a comma with
an item behind it. -/
private theorem readFurther_complete (item : Follows readItem Item) {text rest : List Char}
    {items : List α} (further : FurtherItems Item text items) (ends : EndsNumber rest)
    (stuck : readNext readItem rest = none) :
    readFurther readItem (text ++ rest) = (items, rest) := by
  rw [readFurther_append item further ends, readFurther_of_none stuck, List.append_nil]

private theorem readItems_sound (item : Follows readItem Item) {text rest : List Char}
    {items : List α} (found : readItems readItem text = (items, rest)) :
    (items = [] ∧ text = rest) ∨
      ∃ first others taken more, items = first :: others ∧ text = taken ++ (more ++ rest) ∧
        Item taken first ∧ FurtherItems Item more others := by
  unfold readItems at found
  split at found
  · cases found
    exact .inl ⟨rfl, rfl⟩
  · rename_i first behind read
    obtain ⟨taken, rfl, stands⟩ := item.sound read
    cases remaining : readFurther readItem behind with
    | mk others left =>
      rw [remaining] at found
      cases found
      obtain ⟨more, rfl, further⟩ := readFurther_sound item remaining
      exact .inr ⟨first, others, taken, more, rfl, rfl, stands, further⟩

private theorem readItems_complete (item : Follows readItem Item) {text more rest : List Char}
    {first : α} {others : List α} (stands : Item text first)
    (further : FurtherItems Item more others) (ends : EndsNumber rest)
    (stuck : readNext readItem rest = none) :
    readItems readItem (text ++ (more ++ rest)) = (first :: others, rest) := by
  have read := item.complete stands (endsNumber_further further ends)
  simp [readItems, read, readFurther_complete item further ends stuck]

end

/-! ### Mappings -/

section
variable {α : Type} {readItem : List Char → Option (α × List Char)}
  {Item : List Char → α → Prop}

private theorem readEntry_brace (rest : List Char) : readEntry readItem ('}' :: rest) = none := by
  simp [readEntry, readText]

private theorem skipSpace_brace {after : List Char} (right : Spaces after) (rest : List Char) :
    skipSpace (after ++ '}' :: rest) = '}' :: rest := skipSpace_token right (by decide) rest

/-- Before the closing brace no further entry can be read, with a comma or without: the comma that
follows the last entry is never taken for a separator. -/
private theorem readNext_lastComma {comma after : List Char} (last : LastComma comma)
    (right : Spaces after) (rest : List Char) :
    readNext (readEntry readItem) (comma ++ (after ++ '}' :: rest)) = none := by
  cases last with
  | absent => simp [readNext, skipSpace_brace right]
  | present left => simp [readNext, skipSpace_comma left, skipSpace_brace right, readEntry_brace]

private theorem skipComma_lastComma {comma after : List Char} (last : LastComma comma)
    (right : Spaces after) (rest : List Char) :
    skipComma (comma ++ (after ++ '}' :: rest)) = after ++ '}' :: rest := by
  cases last with
  | absent => simp [skipComma, skipSpace_brace right]
  | present left => simp [skipComma, skipSpace_comma left]

theorem skipComma_split (text : List Char) :
    ∃ comma, LastComma comma ∧ text = comma ++ skipComma text := by
  obtain ⟨before, left, eq⟩ := skipSpace_split text
  unfold skipComma
  split
  · rename_i rest comma
    exact ⟨before ++ [','], .present left, by rw [eq, comma]; simp⟩
  · exact ⟨[], .absent, rfl⟩

theorem endsNumber_lastComma {comma after rest : List Char} (last : LastComma comma)
    (right : Spaces after) (ends : EndsNumber rest) : EndsNumber (comma ++ (after ++ rest)) := by
  cases last with
  | absent =>
    rw [List.nil_append]
    exact endsNumber_spaces right ends
  | present left =>
    rw [List.append_assoc]
    exact endsNumber_token left (by decide) _

/-- A mapping that lacks its closing brace, and the entries that it has so far. -/
inductive OpenMapping (Value : List Char → α → Prop) : List Char → List (String × α) → Prop where
  | empty {inner : List Char} (blank : Spaces inner) : OpenMapping Value ('{' :: inner) []
  | entries {before text more comma after : List Char} {entry : String × α}
      {others : List (String × α)} (left : Spaces before)
      (first : EntryLiteral Value text entry)
      (further : FurtherItems (EntryLiteral Value) more others)
      (last : LastComma comma) (right : Spaces after) :
      OpenMapping Value ('{' :: (before ++ (text ++ (more ++ (comma ++ after))))) (entry :: others)

theorem OpenMapping.exists_inner {text : List Char} {entries : List (String × α)}
    (opened : OpenMapping Item text entries) : ∃ inner, text = '{' :: inner := by
  cases opened <;> exact ⟨_, rfl⟩

theorem OpenMapping.close {text : List Char} {entries : List (String × α)}
    (opened : OpenMapping Item text entries) : MappingLiteral Item (text ++ ['}']) entries := by
  cases opened with
  | empty blank => exact .empty blank (List.forall_mem_nil _)
  | entries left first further last right =>
    simpa only [List.cons_append, List.append_assoc] using
      MappingLiteral.entries left first further last right

theorem MappingLiteral.exists_open {text : List Char} {entries : List (String × α)}
    (stands : MappingLiteral Item text entries) :
    ∃ opened, text = opened ++ ['}'] ∧ OpenMapping Item opened entries := by
  cases stands with
  | empty left right =>
    exact ⟨'{' :: (_ ++ _), by simp, .empty (List.forall_mem_append.mpr ⟨left, right⟩)⟩
  | entries left first further last right =>
    exact ⟨_, by simp, .entries left first further last right⟩

/-- The entries behind an opening brace, and what is left where the closing brace is due. -/
def readInner (readValue : List Char → Option (α × List Char)) (text : List Char) :
    List (String × α) × List Char :=
  let (entries, rest) := readItems (readEntry readValue) (skipSpace text)
  (entries, skipSpace (if entries.isEmpty then rest else skipComma rest))

theorem readInner_sound (value : Follows readItem Item) {text stuck : List Char}
    {entries : List (String × α)} (found : readInner readItem text = (entries, stuck)) :
    ∃ taken, text = taken ++ stuck ∧ OpenMapping Item ('{' :: taken) entries := by
  obtain ⟨before, left, eq⟩ := skipSpace_split text
  cases items : readItems (readEntry readItem) (skipSpace text) with
  | mk read behind =>
    simp only [readInner, items] at found
    cases found
    rcases readItems_sound (readEntry_follows value) items with
      ⟨rfl, spelled⟩ | ⟨first, others, taken, more, rfl, spelled, stands, further⟩
    · obtain ⟨after, right, split⟩ := skipSpace_split behind
      refine ⟨before ++ after, ?_, .empty (List.forall_mem_append.mpr ⟨left, right⟩)⟩
      rw [List.isEmpty_nil, if_pos rfl, List.append_assoc, ← split, ← spelled]
      exact eq
    · obtain ⟨comma, last, splitComma⟩ := skipComma_split behind
      obtain ⟨after, right, split⟩ := skipSpace_split (skipComma behind)
      refine ⟨_, ?_, .entries left stands further last right⟩
      simp only [List.isEmpty_cons, Bool.false_eq_true, if_false, List.append_assoc]
      rw [← split, ← splitComma, ← spelled]
      exact eq

/-- A mapping that was read has its closing brace where it is due. -/
theorem readMapping_eq_ok {text rest : List Char} {entries : List (String × α)}
    (found : readMapping readItem text = .ok (entries, rest)) :
    ∃ inner, text = '{' :: inner ∧ readInner readItem inner = (entries, '}' :: rest) := by
  unfold readMapping at found
  split at found
  · rename_i inner
    refine ⟨inner, rfl, ?_⟩
    cases items : readItems (readEntry readItem) (skipSpace inner) with
    | mk read behind =>
      simp only [items] at found
      split at found
      · rename_i closed brace
        cases found
        simp only [readInner, items, brace]
      · cases found
  · cases found

/-- A text is refused as a whole, or where the closing brace of a mapping is due. -/
theorem readMapping_eq_error {text stuck : List Char}
    (refused : readMapping readItem text = .error stuck) :
    (stuck = text ∧ ∀ inner, text ≠ '{' :: inner) ∨ ∃ inner entries, text = '{' :: inner ∧
      readInner readItem inner = (entries, stuck) := by
  unfold readMapping at refused
  split at refused
  · rename_i inner
    cases items : readItems (readEntry readItem) (skipSpace inner) with
    | mk read behind =>
      simp only [items] at refused
      refine .inr ⟨inner, read, rfl, ?_⟩
      split at refused
      · cases refused
      · cases refused
        simp only [readInner, items]
  · rename_i noBrace
    cases refused
    exact .inl ⟨rfl, noBrace⟩

theorem readMapping_sound (value : Follows readItem Item) {text rest : List Char}
    {entries : List (String × α)} (found : readMapping readItem text = .ok (entries, rest)) :
    ∃ taken, text = taken ++ rest ∧ MappingLiteral Item taken entries := by
  obtain ⟨inner, rfl, read⟩ := readMapping_eq_ok found
  obtain ⟨taken, rfl, opened⟩ := readInner_sound value read
  exact ⟨'{' :: taken ++ ['}'], by simp, opened.close⟩

theorem readMapping_complete (value : Follows readItem Item) {text : List Char}
    {entries : List (String × α)} (stands : MappingLiteral Item text entries)
    (rest : List Char) : readMapping readItem (text ++ rest) = .ok (entries, rest) := by
  cases stands with
  | @empty before after left right =>
    have inner : skipSpace (before ++ (after ++ '}' :: rest)) = '}' :: rest := by
      rw [skipSpace_spaces left, skipSpace_brace right]
    have brace : skipSpace ('}' :: rest) = '}' :: rest := skipSpace_cons (by decide) rest
    simp [readMapping, inner, readItems, readEntry_brace, brace]
  | @entries before text more comma after entry others left first further last right =>
    have entries := readEntry_follows value
    have inner : skipSpace (before ++ (text ++ (more ++ (comma ++ (after ++ '}' :: rest))))) =
        text ++ (more ++ (comma ++ (after ++ '}' :: rest))) :=
      entries.skipSpace_taken left first _
    have brace : EndsNumber ('}' :: rest) := endsNumber_cons (by decide) rest
    have ends := endsNumber_lastComma last right brace
    have items := readItems_complete entries first further ends (readNext_lastComma last right rest)
    simp [readMapping, inner, items, skipComma_lastComma last right, skipSpace_brace right]

private theorem readMapping_cons {character : Char} (other : character ≠ '{') (text : List Char) :
    readMapping readItem (character :: text) = .error (character :: text) := by
  simp [readMapping, other]

end

/-- A mapping begins with a brace and a plain value with anything else, so trying the mapping first
loses no plain value. -/
theorem readValue_follows : Follows readValue ValueLiteral where
  sound {text rest value} found := by
    unfold readValue at found
    split at found
    · rename_i entries left read
      cases found
      obtain ⟨taken, rfl, stands⟩ := readMapping_sound readPlain_follows read
      exact ⟨taken, rfl, .mapping stands⟩
    · obtain ⟨⟨plain, left⟩, read, same⟩ := Option.map_eq_some_iff.mp found
      cases same
      obtain ⟨taken, rfl, stands⟩ := readPlain_follows.sound read
      exact ⟨taken, rfl, .plain stands⟩
  complete {taken rest value} stands ends := by
    cases stands with
    | plain stands =>
      obtain ⟨head, tail, rfl, -, noBrace⟩ := plainLiteral_head stands
      have noMapping : readMapping readPlain (head :: tail ++ rest) = .error _ :=
        readMapping_cons noBrace _
      simp only [readValue, noMapping, readPlain_follows.complete stands ends, Option.map_some]
    | mapping stands => simp [readValue, readMapping_complete readPlain_follows stands]
  solid {taken value} stands := by
    cases stands with
    | plain stands => exact readPlain_follows.solid stands
    | mapping stands => cases stands <;> exact ⟨_, _, rfl, by decide⟩

/-- The reader of whole texts and the grammar agree. -/
theorem readWhole_eq_ok_iff {text : List Char} {entries : List (String × Literal)} :
    readWhole text = .ok entries ↔ WholeLiteral text entries := by
  constructor
  · intro found
    unfold readWhole at found
    obtain ⟨before, left, eq⟩ := skipSpace_split text
    split at found
    · cases found
    · rename_i read behind mapping
      obtain ⟨after, right, split⟩ := skipSpace_split behind
      split at found
      · rename_i finished
        cases found
        obtain ⟨taken, spelled, stands⟩ := readMapping_sound readValue_follows mapping
        rw [eq, spelled, split, finished, List.append_nil]
        exact .whole left stands right
      · cases found
  · rintro ⟨left, stands, right⟩
    rename_i before text after
    have start : skipSpace (before ++ (text ++ after)) = text ++ after := by
      rw [skipSpace_spaces left]
      cases stands <;> exact skipSpace_cons (by decide) _
    have finished : skipSpace after = [] := by
      simpa [skipSpace] using skipSpace_spaces right []
    simp [readWhole, start, readMapping_complete readValue_follows stands, finished]

theorem parseMapping_eq_ok_iff {payload : List Char} {entries : List (String × Literal)} :
    parseMapping payload = .ok entries ↔ WholeLiteral payload entries := by
  rw [← readWhole_eq_ok_iff]
  unfold parseMapping
  split <;> simp_all

/-- A payload is accepted with these entries, in this order, exactly when the grammar derives it
with them. The grammar is unambiguous: however often space, commas or numbers could be cut
differently, no payload has a second list of entries. -/
theorem mapping_literals_exact (payload : List Char) (entries : List (String × Literal)) :
    (parseMapping payload = .ok entries ↔ WholeLiteral payload entries) ∧
      (WholeLiteral payload entries → ∀ other, WholeLiteral payload other → other = entries) := by
  refine ⟨parseMapping_eq_ok_iff, fun derived other derivedOther => ?_⟩
  have accepted := parseMapping_eq_ok_iff.mpr derived
  have acceptedOther := parseMapping_eq_ok_iff.mpr derivedOther
  exact Except.ok.inj (acceptedOther.symm.trans accepted)

end Verdict.Literal
