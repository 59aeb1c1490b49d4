import Mathlib.Data.List.Forall2
import Verdict.Json
import Verdict.Proofs.Execution.BrokenSinks
import Verdict.Proofs.Text.Cutting
/-! The framing of the journal. Entries that are written one after the other, with whatever
characters in their paths, names and values, leave one line each: the line feeds of the output are
exactly the ends of its lines, and each line is the compact text of its entry. -/
namespace Verdict

/-! ## Compact JSON

What JSON without spaces is, said without a printer: how each character stands in a string, and how
values are put together. Every value has one text of this form, and it is the one that is printed.
-/

namespace Json

/-- The characters that are escaped by a letter, each with its letter. -/
def escapeLetters : List (Char × Char) :=
  [('"', '"'), ('\\', '\\'), ('\x08', 'b'), ('\x0c', 'f'), ('\n', 'n'), ('\r', 'r'), ('\t', 't')]

def hexDigits : List Char := "0123456789abcdef".toList

/-- How a character stands in a string. Quotes, backslashes and control characters are escaped, by
their letter if they have one and else by their code; any other character stands for itself. -/
inductive Spells : Char → List Char → Prop
  | letter {character letter : Char} (listed : (character, letter) ∈ escapeLetters) :
    Spells character ['\\', letter]
  | code {character high low : Char} (unlisted : ∀ letter, (character, letter) ∉ escapeLetters)
    (control : character.toNat < 0x20) (first : hexDigits[character.toNat / 16]? = some high)
    (second : hexDigits[character.toNat % 16]? = some low) :
    Spells character ['\\', 'u', '0', '0', high, low]
  | raw {character : Char} (unlisted : ∀ letter, (character, letter) ∉ escapeLetters)
    (visible : 0x20 ≤ character.toNat) : Spells character [character]

/-- A string in its quotes. -/
def Quoted (text : String) (chars : List Char) : Prop :=
  ∃ parts, List.Forall₂ Spells text.toList parts ∧ chars = '"' :: (parts.flatten ++ ['"'])

mutual

/-- The text of a value: items and members stand in their order with commas between them, and
nowhere is a space. -/
inductive Compact : Json → List Char → Prop
  | null : Compact .null "null".toList
  | true : Compact (.bool true) "true".toList
  | false : Compact (.bool false) "false".toList
  | int (value : Int) : Compact (.int value) (toString value).toList
  | float (value : Binary64) : Compact (.float value) (jsonNumber.text value).toList
  | str {text : String} {chars : List Char} (quoted : Quoted text chars) : Compact (.str text) chars
  | arr {items : List Json} {parts : List (List Char)} (each : List.Forall₂ Compact items parts) :
    Compact (.arr items) ('[' :: ([','].intercalate parts ++ [']']))
  | obj {members : List (String × Json)} {parts : List (List Char)}
    (each : List.Forall₂ CompactMember members parts) :
    Compact (.obj members) ('\x7b' :: ([','].intercalate parts ++ ['\x7d']))

/-- A member of an object: its name, a colon and its value. -/
inductive CompactMember : String × Json → List Char → Prop
  | member {name : String} {value : Json} {quoted text : List Char} (quotes : Quoted name quoted)
    (compact : Compact value text) : CompactMember (name, value) (quoted ++ ':' :: text)

end

/-- If the first item has one part and the other items have theirs, all items have their parts. -/
private theorem forall₂_cons_iff_map {α β : Type} {Related : α → β → Prop} {part : α → β} {item : α}
    {items : List α} (first : ∀ one, Related item one ↔ one = part item)
    (others : ∀ parts, List.Forall₂ Related items parts ↔ parts = items.map part)
    (parts : List β) :
    List.Forall₂ Related (item :: items) parts ↔ parts = (item :: items).map part := by
  simp only [List.forall₂_cons_left_iff, first, others, List.map_cons]
  constructor
  · rintro ⟨_, _, rfl, rfl, rfl⟩
    rfl
  · exact fun same => ⟨_, _, rfl, rfl, same⟩

/-! ### Strings -/

private theorem shortEscape?_eq_some_iff {character : Char} {escape : List Char} :
    shortEscape? character = some escape ↔
      ∃ letter, (character, letter) ∈ escapeLetters ∧ escape = ['\\', letter] := by
  constructor
  · intro found
    unfold shortEscape? at found
    split at found <;> cases found
    all_goals exact ⟨_, by decide, rfl⟩
  · rintro ⟨letter, listed, rfl⟩
    simp only [escapeLetters, List.mem_cons, Prod.mk.injEq, List.not_mem_nil, or_false] at listed
    rcases listed with ⟨rfl, rfl⟩ | ⟨rfl, rfl⟩ | ⟨rfl, rfl⟩ | ⟨rfl, rfl⟩ | ⟨rfl, rfl⟩ | ⟨rfl, rfl⟩ |
      ⟨rfl, rfl⟩ <;> rfl

private theorem shortEscape?_eq_none_iff {character : Char} :
    shortEscape? character = none ↔ ∀ letter, (character, letter) ∉ escapeLetters := by
  rw [Option.eq_none_iff_forall_ne_some]
  constructor
  · intro none letter listed
    exact none _ (shortEscape?_eq_some_iff.mpr ⟨letter, listed, rfl⟩)
  · intro unlisted escape found
    obtain ⟨letter, listed, -⟩ := shortEscape?_eq_some_iff.mp found
    exact unlisted letter listed

private theorem hexDigits_getElem? {value : Nat} (small : value < 16) :
    hexDigits[value]? = some (hexDigit value) := by
  have all : ∀ value : Fin 16, hexDigits[value.val]? = some (hexDigit value) := by decide
  exact all ⟨value, small⟩

private theorem unitEscape_of_control {unit : Nat} (control : unit < 0x20) :
    unitEscape unit = ['\\', 'u', '0', '0', hexDigit (unit / 16), hexDigit (unit % 16)] := by
  have first : unit / 4096 % 16 = 0 := by omega
  have second : unit / 256 % 16 = 0 := by omega
  have third : unit / 16 % 16 = unit / 16 := by omega
  rw [unitEscape, first, second, third]
  rfl

private theorem spells_iff {character : Char} {chars : List Char} :
    Spells character chars ↔ chars = plainCharacter character := by
  unfold plainCharacter
  constructor
  · rintro (listed | ⟨unlisted, control, first, second⟩ | ⟨unlisted, visible⟩)
    · rw [shortEscape?_eq_some_iff.mpr ⟨_, listed, rfl⟩]
    · rw [hexDigits_getElem? (by omega)] at first second
      cases first
      cases second
      rw [shortEscape?_eq_none_iff.mpr unlisted, if_pos control, unitEscape_of_control control]
    · rw [shortEscape?_eq_none_iff.mpr unlisted, if_neg (by omega)]
  · rintro rfl
    cases short : shortEscape? character with
    | some escape =>
      obtain ⟨letter, listed, rfl⟩ := shortEscape?_eq_some_iff.mp short
      exact .letter listed
    | none =>
      have unlisted := shortEscape?_eq_none_iff.mp short
      by_cases control : character.toNat < 0x20
      · rw [if_pos control, unitEscape_of_control control]
        exact .code unlisted control (hexDigits_getElem? (by omega)) (hexDigits_getElem? (by omega))
      · rw [if_neg control]
        exact .raw unlisted (by omega)

private theorem quoted_iff {text : String} {chars : List Char} :
    Quoted text chars ↔ chars = quote text := by
  have spelled : ∀ parts, List.Forall₂ Spells text.toList parts ↔
      parts = text.toList.map plainCharacter := by
    induction text.toList with
    | nil => exact fun _ => List.forall₂_nil_left_iff
    | cons character rest ih => exact forall₂_cons_iff_map (fun _ => spells_iff) ih
  simp only [Quoted, spelled, exists_eq_left, quote, List.flatMap]

/-! ### Values -/

private theorem itemChars_eq (items : List Json) :
    itemChars items = [','].intercalate (items.map chars) := by
  rw [← glue_eq_intercalate]
  induction items with
  | nil => rfl
  | cons item rest ih =>
    cases rest with
    | nil => rfl
    | cons next rest =>
      rw [itemChars, ih]
      · rfl
      · exact List.cons_ne_nil next rest

/-- A member as it is printed. -/
def memberText (member : String × Json) : List Char :=
  quote member.1 ++ ':' :: chars member.2

private theorem memberChars_eq (members : List (String × Json)) :
    memberChars members = [','].intercalate (members.map memberText) := by
  rw [← glue_eq_intercalate]
  induction members with
  | nil => rfl
  | cons member rest ih =>
    cases rest with
    | nil => rfl
    | cons next rest =>
      rw [memberChars, ih]
      · simp [glue, memberText]
      · exact List.cons_ne_nil next rest

mutual

/-- Every value has one compact text, the one that is printed. -/
theorem compact_iff : ∀ (value : Json) (text : List Char),
    Compact value text ↔ text = value.chars
  | .null, _ => ⟨fun | .null => rfl, fun printed => printed ▸ .null⟩
  | .bool true, _ => ⟨fun | .true => rfl, fun printed => printed ▸ .true⟩
  | .bool false, _ => ⟨fun | .false => rfl, fun printed => printed ▸ .false⟩
  | .int value, _ => ⟨fun | .int _ => rfl, fun printed => printed ▸ .int value⟩
  | .float value, _ => ⟨fun | .float _ => rfl, fun printed => printed ▸ .float value⟩
  | .str _, _ =>
    ⟨fun | .str quoted => quoted_iff.mp quoted, fun printed => .str (quoted_iff.mpr printed)⟩
  | .arr items, text => by
    rw [chars, itemChars_eq]
    constructor
    · rintro (_ | _ | _ | _ | _ | _ | each)
      rw [(compactItems_iff items _).mp each]
    · rintro rfl
      exact .arr ((compactItems_iff items _).mpr rfl)
  | .obj members, text => by
    rw [chars, memberChars_eq]
    constructor
    · rintro (_ | _ | _ | _ | _ | _ | _ | each)
      rw [(compactMembers_iff members _).mp each]
    · rintro rfl
      exact .obj ((compactMembers_iff members _).mpr rfl)

private theorem compactItems_iff : ∀ (items : List Json) (parts : List (List Char)),
    List.Forall₂ Compact items parts ↔ parts = items.map chars
  | [], _ => List.forall₂_nil_left_iff
  | item :: rest, parts => forall₂_cons_iff_map (compact_iff item) (compactItems_iff rest) parts

private theorem compactMembers_iff : ∀ (members : List (String × Json)) (parts : List (List Char)),
    List.Forall₂ CompactMember members parts ↔ parts = members.map memberText
  | [], _ => List.forall₂_nil_left_iff
  | (name, value) :: rest, parts => by
    have first : ∀ text, CompactMember (name, value) text ↔
        text = memberText (name, value) := by
      intro text
      constructor
      · rintro ⟨quotes, compact⟩
        rw [quoted_iff.mp quotes, (compact_iff value _).mp compact]
        rfl
      · rintro rfl
        exact .member (quoted_iff.mpr rfl) ((compact_iff value _).mpr rfl)
    exact forall₂_cons_iff_map first (compactMembers_iff rest) parts

end

end Json

/-! ## Framed entries -/

/-- The line of an entry: the octets of the one text that its path and its record have as JSON
without spaces. -/
def Entry.IsLine (entry : Entry) (line : List UInt8) : Prop :=
  ∃ text, line = Utf8.encode text ∧
    ∀ other, other = text ↔
      Json.Compact (.obj [("path", .str entry.path), ("result", entry.record.toJson)]) other

/-- Octets that are the lines of some entries, in their order. -/
structure Framed (entries : List Entry) (output : List UInt8) : Prop where
  /-- There are as many line feeds as entries. -/
  count : output.count Utf8.lineFeed = entries.length
  /-- The last line is ended like the others. -/
  ended (some : output ≠ []) : [Utf8.lineFeed] <:+ output
  /-- No octet is below the space but the line feeds. -/
  controls {octet : UInt8} (member : octet ∈ output) (control : octet.toNat < 0x20) :
    octet = Utf8.lineFeed
  lines : ∃ lines, pieces Utf8.lineFeed output = lines ++ [[]] ∧
    List.Forall₂ Entry.IsLine entries lines

namespace Entry

private theorem isLine_line (entry : Entry) : entry.IsLine entry.line :=
  ⟨entry.chars, rfl, fun other => (Json.compact_iff entry.toJson other).symm⟩

private theorem count_octets (entry : Entry) : entry.octets.count Utf8.lineFeed = 1 := by
  rw [octets_eq, List.count_append, List.count_eq_zero_of_not_mem entry.lineFeed_not_mem_line]
  rfl

private theorem controls_octets {entry : Entry} {octet : UInt8} (member : octet ∈ entry.octets)
    (control : octet.toNat < 0x20) : octet = Utf8.lineFeed := by
  rw [octets_eq, List.mem_append, List.mem_singleton] at member
  rcases member with inside | ending
  · exact absurd (le_of_mem_line inside) (Nat.not_le.mpr control)
  · exact ending

end Entry

/-- The octets of entries, one after the other, are their lines. -/
theorem framed_flatMap_octets (entries : List Entry) :
    Framed entries (entries.flatMap Entry.octets) where
  count := by
    induction entries with
    | nil => rfl
    | cons entry entries ih =>
      rw [List.flatMap_cons, List.count_append, entry.count_octets, ih, List.length_cons, add_comm]
  ended some := by
    rcases List.eq_nil_or_concat entries with rfl | ⟨earlier, last, rfl⟩
    · exact absurd rfl some
    · rw [List.concat_eq_append, List.flatMap_append, List.flatMap_singleton, Entry.octets_eq,
        ← List.append_assoc]
      exact List.suffix_append _ _
  controls member control := by
    obtain ⟨entry, -, member⟩ := List.mem_flatMap.mp member
    exact Entry.controls_octets member control
  lines := by
    refine ⟨entries.map Entry.line, pieces_flatMap_octets entries, ?_⟩
    rw [List.forall₂_map_right_iff, List.forall₂_same]
    exact fun entry _ => entry.isLine_line

private theorem Sink.Working.exists_writes {sink : Sink} (working : sink.Working)
    (entries : List Entry) : ∃ after, sink.Writes entries after := by
  induction entries generalizing sink with
  | nil => exact ⟨sink, .none sink⟩
  | cons entry entries ih =>
    obtain ⟨between, written, works, -⟩ := working.writeEntry entry
    obtain ⟨after, more⟩ := ih works
    exact ⟨after, .entry written more⟩

/-- On a sink that works all entries are written, in as many calls as it takes, and what the sink
has taken since then is one line for each of them, in their order. -/
theorem writes_one_line_per_entry (sink : Sink) (entries : List Entry) (working : sink.Working) :
    (∃ after, sink.Writes entries after) ∧
      ∀ after, sink.Writes entries after →
        ∃ output, after.taken = sink.taken ++ output ∧ Framed entries output := by
  refine ⟨working.exists_writes entries, fun after writes => ?_⟩
  exact ⟨_, (working.writes writes).2, framed_flatMap_octets entries⟩

/-- Entries with control characters, quotes and backslashes wherever a test can put them. -/
def unrulyEntries : List Entry :=
  [⟨"a\n\"b\"", { subtest := some (.ofList [("\x00\r", .pass)]), note := some "\x7b\n\x7d\n" }⟩,
    ⟨"\x1f\x7fé", { extra := ⟨[("k\n", .obj [("\t", .arr [.str "\\", .float .zero])])],
      by decide +kernel⟩ }⟩]

/-- A sink that takes two octets first, then seven at a time, and is interrupted, has two lines in
the end. -/
theorem writes_one_line_per_entry_of_unrulyEntries :
    let sink : Sink := { chunk := some 7, onWrite := [(0, .take 2), (2, .interrupt)] }
    sink.Working ∧ ∃ after, sink.Writes unrulyEntries after ∧ Framed unrulyEntries after.taken ∧
      after.taken = Utf8.encode
        ("\x7b\"path\":\"a\\n\\\"b\\\"\",\"result\":"
          ++ "\x7b\"subtest\":\x7b\"\\u0000\\r\":\"pass\"\x7d,\"note\":\"\x7b\\n\x7d\\n\"\x7d\x7d\n"
          ++ "\x7b\"path\":\"\\u001f\x7fé\",\"result\":"
          ++ "\x7b\"k\\n\":\x7b\"\\t\":[\"\\\\\",0.0]\x7d\x7d\x7d\n").toList := by
  intro sink
  have working : sink.Working := by
    refine ⟨by decide, fun planned _ => ?_, nofun⟩
    rcases List.mem_pair.mp planned with planned | planned <;> cases planned
    · exact Nat.two_pos
    · exact trivial
  obtain ⟨⟨after, writes⟩, framed⟩ := writes_one_line_per_entry sink unrulyEntries working
  obtain ⟨output, taken, framed⟩ := framed after writes
  refine ⟨working, after, writes, taken ▸ framed, ?_⟩
  rw [(working.writes writes).2]
  decide +kernel

end Verdict
