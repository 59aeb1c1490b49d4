import Mathlib.Data.List.Basic
import Verdict.Proofs.Fallible
import Verdict.Proofs.Literal.Reading
/-! Where a text is refused. A reader that gives up entries as a whole can only rest where the text
before can still be completed, and it rests at the last such point, but for numbers that may be cut:
a digit more can turn a number into none, and then its entry is given up. -/
namespace Verdict

private theorem Utf8.length_eq_utf8ByteSize (text : List Char) :
    Utf8.length text = (String.ofList text).utf8ByteSize := by
  induction text with
  | nil => rfl
  | cons character rest ih =>
    have first : (String.ofList [character]).utf8ByteSize = character.utf8Size :=
      String.utf8ByteSize_singleton
    rw [← List.singleton_append, String.ofList_append, String.utf8ByteSize_append, first, ← ih]
    rfl

namespace Literal

/-- What may be missing at the end of a mapping: all of it, its closing brace, or nothing. -/
def endings : List (List Char) := [['{', '}'], ['}'], []]

/-- A text that becomes a mapping literal with one of the endings. -/
def Completable (text : List Char) : Prop :=
  ∃ ending ∈ endings, ∃ entries, parseMapping (text ++ ending) = .ok entries

/-! ### Before the point of refusal -/

private theorem readWhole_spaces {spaces : List Char} (blank : Spaces spaces) (text : List Char) :
    readWhole (spaces ++ text) = readWhole text := by
  rw [readWhole, skipSpace_spaces blank]
  rfl

/-- A text is refused within its mapping, or behind it. -/
theorem readWhole_eq_error {text stuck : List Char} (refused : readWhole text = .error stuck) :
    readMapping readValue (skipSpace text) = .error stuck ∨ ∃ entries rest,
      readMapping readValue (skipSpace text) = .ok (entries, rest) ∧ stuck = skipSpace rest := by
  unfold readWhole at refused
  split at refused
  · rename_i point mapping
    cases refused
    exact .inl mapping
  · rename_i entries rest mapping
    refine .inr ⟨entries, rest, mapping, ?_⟩
    split at refused
    · cases refused
    · cases refused
      rfl

private theorem completable_of_spaces {text : List Char} (blank : Spaces text) :
    Completable text := by
  have brace : OpenMapping ValueLiteral ['{'] [] := .empty (List.forall_mem_nil _)
  have stands := WholeLiteral.whole blank brace.close (List.forall_mem_nil _)
  exact ⟨['{', '}'], by decide, [], parseMapping_eq_ok_iff.mpr stands⟩

private theorem completable_of_open {before text : List Char} {entries : List (String × Literal)}
    (left : Spaces before) (opened : OpenMapping ValueLiteral text entries) :
    Completable (before ++ text) := by
  have stands := WholeLiteral.whole left opened.close (List.forall_mem_nil _)
  refine ⟨['}'], by decide, entries, parseMapping_eq_ok_iff.mpr ?_⟩
  rwa [List.append_nil, ← List.append_assoc] at stands

private theorem completable_of_whole {text : List Char} {entries : List (String × Literal)}
    (stands : WholeLiteral text entries) : Completable text :=
  ⟨[], by decide, entries, parseMapping_eq_ok_iff.mpr (by rwa [List.append_nil])⟩

/-- What comes before the point of refusal can be completed. -/
theorem readWhole_refused {payload stuck : List Char} (refused : readWhole payload = .error stuck) :
    ∃ seen, payload = seen ++ stuck ∧ Completable seen := by
  obtain ⟨before, left, eq⟩ := skipSpace_split payload
  rcases readWhole_eq_error refused with mapping | ⟨entries, rest, mapping, rfl⟩
  · rcases readMapping_eq_error mapping with ⟨rfl, -⟩ | ⟨inner, entries, brace, read⟩
    · exact ⟨before, eq, completable_of_spaces left⟩
    · obtain ⟨taken, rfl, opened⟩ := readInner_sound readValue_follows read
      refine ⟨before ++ '{' :: taken, ?_, completable_of_open left opened⟩
      rw [List.append_assoc, List.cons_append, ← brace]
      exact eq
  · obtain ⟨after, right, split⟩ := skipSpace_split rest
    obtain ⟨taken, spelled, stands⟩ := readMapping_sound readValue_follows mapping
    refine ⟨before ++ (taken ++ after), ?_, completable_of_whole (.whole left stands right)⟩
    rw [List.append_assoc, List.append_assoc, ← split, ← spelled]
    exact eq

/-! ### Nothing longer can be completed -/

private theorem length_skipSpace_le (text : List Char) : (skipSpace text).length ≤ text.length :=
  (List.dropWhile_sublist isSpace).length_le

private theorem length_skipComma_le (text : List Char) : (skipComma text).length ≤ text.length := by
  obtain ⟨comma, -, eq⟩ := skipComma_split text
  exact List.IsSuffix.length_le ⟨comma, eq.symm⟩

section
variable {α : Type} {readItem : List Char → Option (α × List Char)}
  {Item : List Char → α → Prop}

private theorem Follows.length_le (item : Follows readItem Item) {text rest : List Char} {value : α}
    (found : readItem text = some (value, rest)) : rest.length ≤ text.length := by
  obtain ⟨taken, eq, -⟩ := item.sound found
  exact List.IsSuffix.length_le ⟨taken, eq.symm⟩

private theorem length_readFurther_le (item : Follows readItem Item) (text : List Char) :
    (readFurther readItem text).2.length ≤ text.length := by
  obtain ⟨taken, eq, -⟩ := readFurther_sound item (Prod.eta (readFurther readItem text)).symm
  exact List.IsSuffix.length_le ⟨taken, eq.symm⟩

private theorem readInner_spaces {spaces : List Char} (blank : Spaces spaces) (text : List Char) :
    readInner readItem (spaces ++ text) = readInner readItem text := by
  rw [readInner, skipSpace_spaces blank]
  rfl

private theorem length_readInner_le (value : Follows readItem Item) (text : List Char) :
    (readInner readItem text).2.length ≤ text.length := by
  obtain ⟨taken, eq, -⟩ := readInner_sound value (Prod.eta (readInner readItem text)).symm
  exact List.IsSuffix.length_le ⟨taken, eq.symm⟩

/-- Further items end where they begin, or a first one is taken and they go on behind it. -/
private theorem readFurther_cases (text : List Char) :
    (readFurther readItem text).2 = text ∨ ∃ value rest, readNext readItem text = some (value, rest) ∧
      (readFurther readItem text).2 = (readFurther readItem rest).2 := by
  rw [readFurther]
  split
  · exact .inl rfl
  · rename_i value rest next
    split
    · exact .inr ⟨value, rest, next, rfl⟩
    · exact .inl rfl

section
variable {comma after others : List Char} (last : LastComma comma) (right : Spaces after)
include last right

/-- A comma that the reader meets is the last one, or one that comes later. -/
private theorem length_behind_comma_le {behind : List Char}
    (found : skipSpace (comma ++ (after ++ others)) = ',' :: behind) :
    (skipSpace behind).length ≤ others.length := by
  have skipped := length_skipSpace_le others
  cases last with
  | absent =>
    rw [List.nil_append, skipSpace_spaces right] at found
    rw [found, List.length_cons] at skipped
    have spaces := length_skipSpace_le behind
    omega
  | present left =>
    rw [List.append_assoc, List.singleton_append, skipSpace_comma left] at found
    obtain rfl := (List.cons.inj found).2
    rwa [skipSpace_spaces right]

private theorem length_behind_lastComma_le :
    (skipSpace (skipComma (comma ++ (after ++ others)))).length ≤ others.length := by
  unfold skipComma
  split
  · rename_i behind found
    exact length_behind_comma_le last right found
  · rename_i noComma
    cases last with
    | absent =>
      rw [List.nil_append, skipSpace_spaces right]
      exact length_skipSpace_le others
    | present left =>
      rw [List.append_assoc, List.singleton_append, skipSpace_comma left] at noComma
      exact absurd rfl (noComma _)

/-- Behind an entry the reader gets over a last comma and space, whether or not it takes the comma
for a separator. -/
private theorem length_behind_entry_le (item : Follows readItem Item) :
    (skipSpace (skipComma (readFurther readItem (comma ++ (after ++ others))).2)).length ≤
      others.length := by
  rcases @readFurther_cases _ readItem (comma ++ (after ++ others)) with
    ended | ⟨value, rest, next, goesOn⟩
  · rw [ended]
    exact length_behind_lastComma_le last right
  · unfold readNext at next
    split at next
    · rename_i behind found
      calc (skipSpace (skipComma (readFurther readItem (comma ++ (after ++ others))).2)).length
          ≤ (readFurther readItem (comma ++ (after ++ others))).2.length :=
            Nat.le_trans (length_skipSpace_le _) (length_skipComma_le _)
        _ ≤ rest.length := goesOn ▸ length_readFurther_le item rest
        _ ≤ (skipSpace behind).length := item.length_le next
        _ ≤ others.length := length_behind_comma_le last right found
    · cases next

end

/-- The reader gets as far as any text that only lacks a closing brace, unless a character of numbers
follows. -/
private theorem length_readInner_open_le (value : Follows readItem Item) {inner others : List Char}
    {entries : List (String × α)} (opened : OpenMapping Item ('{' :: inner) entries)
    (ends : EndsNumber others) : (readInner readItem (inner ++ others)).2.length ≤ others.length := by
  cases opened with
  | empty blank =>
    rw [readInner_spaces blank]
    exact length_readInner_le value others
  | @entries before text more comma after entry further left first follow last right =>
    have entry := readEntry_follows value
    have tail := endsNumber_lastComma last right ends
    have start := entry.skipSpace_taken left first (more ++ (comma ++ (after ++ others)))
    have read := entry.complete first (endsNumber_further follow tail)
    have items := readFurther_append entry follow tail
    simp only [List.append_assoc, readInner, start, readItems, read, items, List.isEmpty_cons,
      Bool.false_eq_true, if_false]
    exact length_behind_entry_le last right entry

/-! ### How constructs end -/

/-- A text that does not end with an opening brace. -/
def NoBraceLast (text : List Char) : Prop := text.getLast? ≠ some '{'

private theorem noBraceLast_concat {text : List Char} {character : Char} (other : character ≠ '{') :
    NoBraceLast (text ++ [character]) := by
  rw [NoBraceLast, List.getLast?_concat]
  exact fun same => other (Option.some.inj same)

private theorem NoBraceLast.append {left right : List Char} (first : NoBraceLast left)
    (second : NoBraceLast right) : NoBraceLast (left ++ right) := by
  unfold NoBraceLast at *
  rw [List.getLast?_append]
  cases last : right.getLast? with
  | none => exact first
  | some character => rwa [last] at second

/-- A text without opening braces does not end with one. -/
private theorem noBraceLast_of_forall {text : List Char}
    (all : ∀ character ∈ text, character ≠ '{') : NoBraceLast text :=
  fun same => all _ (List.mem_of_getLast? same) rfl

private theorem noBraceLast_spaces {text : List Char} (blank : Spaces text) : NoBraceLast text := by
  refine noBraceLast_of_forall fun character member => ?_
  rintro rfl
  exact absurd (blank _ member) (by decide)

private theorem noBraceLast_lastComma {text : List Char} (last : LastComma text) :
    NoBraceLast text := by
  cases last with
  | absent => exact noBraceLast_of_forall (List.forall_mem_nil _)
  | present left => exact noBraceLast_concat (by decide)

private theorem noBraceLast_text {text : List Char} {value : String}
    (stands : TextLiteral text value) : NoBraceLast text := by
  obtain ⟨known, inside⟩ := stands
  rename_i quote body characters
  have other : quote ≠ '{' := (quotes_visible quote known).2
  rw [← List.cons_append]
  exact noBraceLast_concat other

private theorem noBraceLast_plain {text : List Char} {value : Plain}
    (stands : PlainLiteral text value) : NoBraceLast text := by
  cases stands with
  | text string => exact noBraceLast_text string
  | keyword keyword => cases keyword <;> simp [NoBraceLast]
  | number number =>
    obtain ⟨-, letters, -⟩ := numberLiteral_iff.mp number
    refine noBraceLast_of_forall fun character member => ?_
    rintro rfl
    exact absurd (letters _ member) (by decide)

private theorem noBraceLast_mapping {text : List Char} {entries : List (String × α)}
    (stands : MappingLiteral Item text entries) : NoBraceLast text := by
  obtain ⟨opened, rfl, -⟩ := stands.exists_open
  exact noBraceLast_concat (by decide)

private theorem noBraceLast_value {text : List Char} {value : Literal}
    (stands : ValueLiteral text value) : NoBraceLast text := by
  cases stands with
  | plain stands => exact noBraceLast_plain stands
  | mapping stands => exact noBraceLast_mapping stands

private theorem noBraceLast_entry (value : ∀ {text worth}, Item text worth → NoBraceLast text)
    {text : List Char} {entry : String × α} (stands : EntryLiteral Item text entry) :
    NoBraceLast text := by
  obtain ⟨string, left, right, stands⟩ := stands
  have colon : NoBraceLast [':'] := by simp [NoBraceLast]
  exact ((noBraceLast_text string).append (noBraceLast_spaces left)).append
    (colon.append ((noBraceLast_spaces right).append (value stands)))

private theorem noBraceLast_further (item : ∀ {text value}, Item text value → NoBraceLast text)
    {text : List Char} {items : List α} (further : FurtherItems Item text items) :
    NoBraceLast text := by
  induction further with
  | nil => exact noBraceLast_of_forall (List.forall_mem_nil _)
  | cons left right stands further ih =>
    have comma : NoBraceLast [','] := by simp [NoBraceLast]
    exact (noBraceLast_spaces left).append
      (comma.append ((noBraceLast_spaces right).append ((item stands).append ih)))

private theorem noBraceLast_inner (value : ∀ {text worth}, Item text worth → NoBraceLast text)
    {inner : List Char} {entries : List (String × α)}
    (opened : OpenMapping Item ('{' :: inner) entries) : NoBraceLast inner := by
  cases opened with
  | empty blank => exact noBraceLast_spaces blank
  | entries left first further last right =>
    have items := noBraceLast_further (noBraceLast_entry value) further
    exact (noBraceLast_spaces left).append ((noBraceLast_entry value first).append
      (items.append ((noBraceLast_lastComma last).append (noBraceLast_spaces right))))

end

/-! ### Texts that can be completed -/

/-- A closing brace at the end of a literal closes its mapping. -/
theorem exists_open_of_whole {text : List Char} {entries : List (String × Literal)}
    (stands : WholeLiteral (text ++ ['}']) entries) :
    ∃ before opened, Spaces before ∧ OpenMapping ValueLiteral opened entries ∧
      text = before ++ opened := by
  generalize closed : text ++ ['}'] = whole at stands
  obtain ⟨left, mapping, right⟩ := stands
  rename_i before taken after
  obtain ⟨opened, rfl, opens⟩ := mapping.exists_open
  refine ⟨before, opened, left, opens, ?_⟩
  rcases List.eq_nil_or_concat' after with rfl | ⟨spaces, space, rfl⟩
  · rw [List.append_nil, ← List.append_assoc] at closed
    exact List.append_cancel_right closed
  · -- The closing brace would be a space.
    simp only [← List.append_assoc] at closed
    obtain ⟨-, last⟩ := List.append_inj' closed rfl
    cases last
    exact absurd (right '}' (List.mem_append_right _ List.mem_cons_self)) (by decide)

/-- A text can be completed if it is space, an open mapping behind space, or a literal already. -/
theorem completable_iff {text : List Char} : Completable text ↔
    Spaces text ∨
    (∃ before opened entries, Spaces before ∧ OpenMapping ValueLiteral opened entries ∧
      text = before ++ opened) ∨
    ∃ entries, WholeLiteral text entries := by
  constructor
  · rintro ⟨ending, listed, entries, accepted⟩
    have stands := parseMapping_eq_ok_iff.mp accepted
    simp only [endings, List.mem_cons, List.not_mem_nil, or_false] at listed
    rcases listed with rfl | rfl | rfl
    · refine .inl ?_
      have closed : WholeLiteral ((text ++ ['{']) ++ ['}']) entries := by
        rwa [List.append_assoc]
      obtain ⟨before, opened, left, opens, same⟩ := exists_open_of_whole closed
      obtain ⟨inner, rfl⟩ := opens.exists_inner
      rcases List.eq_nil_or_concat' inner with rfl | ⟨init, last, rfl⟩
      · rwa [List.append_cancel_right same]
      · -- Of an open mapping only the first character can be its brace.
        rw [← List.cons_append, ← List.append_assoc] at same
        obtain ⟨-, last⟩ := List.append_inj' same rfl
        cases last
        exact absurd List.getLast?_concat (noBraceLast_inner noBraceLast_value opens)
    · obtain ⟨before, opened, left, opens, same⟩ := exists_open_of_whole stands
      exact .inr (.inl ⟨before, opened, entries, left, opens, same⟩)
    · rw [List.append_nil] at stands
      exact .inr (.inr ⟨entries, stands⟩)
  · rintro (blank | ⟨before, opened, entries, left, opens, rfl⟩ | ⟨entries, stands⟩)
    · exact completable_of_spaces blank
    · exact completable_of_open left opens
    · exact completable_of_whole stands

/-! ### The point of refusal -/

/-- Reading gets as far as any text that can be completed, unless a character of numbers follows. -/
theorem length_stuck_le {text others stuck : List Char} (completable : Completable text)
    (ends : EndsNumber others) (refused : readWhole (text ++ others) = .error stuck) :
    stuck.length ≤ others.length := by
  rcases completable_iff.mp completable with
    blank | ⟨before, opened, entries, left, opens, rfl⟩ | ⟨entries, left, stands, right⟩
  · rw [readWhole_spaces blank] at refused
    obtain ⟨seen, eq, -⟩ := readWhole_refused refused
    exact List.IsSuffix.length_le ⟨seen, eq.symm⟩
  · obtain ⟨inner, rfl⟩ := opens.exists_inner
    have reached := length_readInner_open_le readValue_follows opens ends
    rw [List.append_assoc, readWhole_spaces left, List.cons_append] at refused
    have start : skipSpace ('{' :: (inner ++ others)) = '{' :: (inner ++ others) :=
      skipSpace_cons (by decide) _
    rcases readWhole_eq_error refused with mapping | ⟨entries, rest, mapping, rfl⟩ <;>
      rw [start] at mapping
    · rcases readMapping_eq_error mapping with ⟨-, noBrace⟩ | ⟨_, _, same, read⟩
      · exact absurd rfl (noBrace _)
      · cases same
        rwa [read] at reached
    · obtain ⟨_, same, read⟩ := readMapping_eq_ok mapping
      cases same
      rw [read, List.length_cons] at reached
      have skipped := length_skipSpace_le rest
      omega
  · rename_i before mapping after
    have start : skipSpace (mapping ++ (after ++ others)) = mapping ++ (after ++ others) := by
      obtain ⟨opened, rfl, opens⟩ := stands.exists_open
      obtain ⟨inner, rfl⟩ := opens.exists_inner
      exact skipSpace_cons (by decide) _
    rw [List.append_assoc, List.append_assoc, readWhole_spaces left] at refused
    have complete := readMapping_complete readValue_follows stands (after ++ others)
    rcases readWhole_eq_error refused with failed | ⟨_, _, found, rfl⟩
    · rw [start, complete] at failed
      cases failed
    · rw [start, complete] at found
      cases found
      rw [skipSpace_spaces right]
      exact length_skipSpace_le others

/-- For every payload that is refused, the offset lies in the payload and between two characters.
The text before it can be completed, and it is the last such point: any longer beginning of the
payload that can be completed too is followed by a character of numbers. -/
theorem offset_of_refusal (payload : List Char) (refusal : Refusal)
    (refused : parseMapping payload = .error refusal) :
    refusal.payload = String.ofList payload ∧
    refusal.offset ≤ refusal.payload.utf8ByteSize ∧
    String.Pos.Raw.IsValid refusal.payload ⟨refusal.offset⟩ ∧
    ∃ seen rest, payload = seen ++ rest ∧ refusal.offset = (String.ofList seen).utf8ByteSize ∧
      Completable seen ∧
      ∀ text others, payload = text ++ others → EndsNumber others → Completable text →
        (String.ofList text).utf8ByteSize ≤ refusal.offset := by
  unfold parseMapping at refused
  split at refused
  · cases refused
  rename_i stuck failed
  cases refused
  obtain ⟨seen, rfl, completable⟩ := readWhole_refused failed
  have offset : Utf8.length (seen ++ stuck) - Utf8.length stuck =
      (String.ofList seen).utf8ByteSize := by
    rw [Utf8.length_eq_utf8ByteSize, Utf8.length_eq_utf8ByteSize, String.ofList_append,
      String.utf8ByteSize_append, Nat.add_sub_cancel]
  rw [offset]
  have valid : String.Pos.Raw.IsValid (String.ofList (seen ++ stuck))
      ⟨(String.ofList seen).utf8ByteSize⟩ :=
    String.Pos.Raw.isValid_iff_exists_append.mpr ⟨_, _, String.ofList_append, rfl⟩
  refine ⟨rfl, valid.le_rawEndPos, valid, seen, stuck, rfl, rfl, completable, ?_⟩
  intro text others same ends alsoCompletable
  have shorter := length_stuck_le alsoCompletable ends (same ▸ failed)
  obtain ⟨more, rfl⟩ : text <+: seen := by
    refine List.prefix_of_prefix_length_le ⟨others, rfl⟩ (same ▸ List.prefix_append seen stuck) ?_
    have lengths := congrArg List.length same
    rw [List.length_append, List.length_append] at lengths
    omega
  change _ ≤ (String.ofList (text ++ more)).utf8ByteSize
  rw [String.ofList_append, String.utf8ByteSize_append]
  exact Nat.le_add_right _ _

/-- A word stands where a second entry is due, ten octets behind the beginning. -/
theorem offset_of_refusal_of_word :
    let payload := ['{', '\'', 'é', '\'', ':', ' ', '1', ',', ' ', 'x', '}']
    let refusal : Refusal := ⟨String.ofList payload, 10⟩
    parseMapping payload = .error refusal ∧ String.Pos.Raw.IsValid refusal.payload ⟨10⟩ ∧
      ∃ seen, seen <+: payload ∧ (String.ofList seen).utf8ByteSize = 10 ∧ Completable seen := by
  intro payload refusal
  have refused : parseMapping payload = .error refusal :=
    refusal?_eq_some_iff.mp (by decide +kernel)
  obtain ⟨-, -, valid, seen, rest, same, offset, completable, -⟩ :=
    offset_of_refusal payload refusal refused
  exact ⟨refused, valid, seen, ⟨rest, same.symm⟩, offset.symm, completable⟩

end Literal

end Verdict
