import Verdict.Proofs.Text.Cutting
import Verdict.Text.Basic
/-! Decoding octets line by line. An octet below 128 ends whatever character was begun before it
and stands for itself, and a character of several octets is never one of ASCII. So a text may be cut
into lines before or after it is decoded, whatever octets the lines hold, a line begins with a word
of ASCII exactly when its octets do, and a text has such a word anywhere exactly when its octets
have. -/
namespace Verdict.Utf8

/-! ### What a character begun can become -/

/-- The number of values between which the octets after the next one decide. -/
def spread : Nat → Nat
  | 0 | 1 => 1
  | missing + 2 => 64 * spread (missing + 1)

/-- What has been read of a character leaves it no value of ASCII, none above the last character,
and none in the gap that no character fills. -/
def State.Sound : State → Prop
  | .start => True
  | .inside value missing low high =>
    1 ≤ missing ∧ missing ≤ 3 ∧ 0x80 ≤ low.toNat ∧
      0x80 ≤ (64 * value + (low.toNat - 0x80)) * spread missing ∧
      (64 * value + (high.toNat - 0x80) + 1) * spread missing ≤ 0x110000 ∧
      ((64 * value + (high.toNat - 0x80) + 1) * spread missing ≤ 0xD800 ∨
        0xE000 ≤ (64 * value + (low.toNat - 0x80)) * spread missing)

private theorem sound_start : State.start.Sound := trivial

/-- A character of several octets. -/
def Wide (character : Char) : Prop := 0x80 ≤ character.toNat

/-- A text is seen to be of ASCII by its characters. -/
theorem narrow_of_all {word : List Char}
    (all : word.all (fun character => decide (character.toNat < 0x80)) = true) :
    ∀ character ∈ word, ¬ Wide character := by
  intro character member
  have small := List.all_eq_true.mp all character member
  exact Nat.not_le.mpr (of_decide_eq_true small)

private theorem wide_replacement : Wide replacement := by
  unfold Wide replacement
  decide

private theorem toNat_ofNat {code : Nat} (valid : code.isValidChar) :
    (Char.ofNat code).toNat = code := by
  rw [Char.ofNat, dif_pos valid]
  exact UInt32.toNat_ofNatLT

private theorem wide_ofNat {code : Nat} (low : 0x80 ≤ code) (high : code < 0x110000)
    (outside : code < 0xD800 ∨ 0xE000 ≤ code) : Wide (Char.ofNat code) := by
  have valid : code.isValidChar := by
    rcases outside with below | above
    · exact .inl below
    · exact .inr ⟨by omega, high⟩
  unfold Wide
  rw [toNat_ofNat valid]
  exact low

private theorem begin_ascii {octet : UInt8} (ascii : octet.toNat < 0x80) :
    begin octet = ([Char.ofNat octet.toNat], .start) := by
  simp [begin, ascii]

private theorem begin_wide {octet : UInt8} (other : 0x80 ≤ octet.toNat) :
    (∀ character ∈ (begin octet).1, Wide character) ∧ (begin octet).2.Sound := by
  have bound := octet.toNat_lt
  fun_cases begin octet
  all_goals simp [State.Sound, spread, wide_replacement]
  all_goals omega

/-- What is left of a character that does not go on: nothing at the start, else its replacement. -/
def unfinished : State → List Char
  | .start => []
  | .inside .. => [replacement]

private theorem decodeFrom_nil (state : State) : decodeFrom state [] = unfinished state := by
  cases state <;> rfl

private theorem decodeFrom_cons (state : State) (octet : UInt8) (rest : List UInt8) :
    decodeFrom state (octet :: rest) =
      (step state octet).1 ++ decodeFrom (step state octet).2 rest := by
  cases state <;> rfl

variable {state : State} {octet : UInt8}

/-- An octet of ASCII ends whatever was begun and stands for itself. -/
private theorem step_ascii (sound : state.Sound) (ascii : octet.toNat < 0x80) :
    step state octet = (unfinished state ++ [Char.ofNat octet.toNat], .start) := by
  cases state with
  | start => exact begin_ascii ascii
  | inside value missing low high =>
    have outside : ¬ (low ≤ octet ∧ octet ≤ high) := by
      rintro ⟨above, -⟩
      have := UInt8.le_iff_toNat_le.mp above
      have := sound.2.2.1
      omega
    simp [step, outside, begin_ascii ascii, unfinished]

/-- Any other octet settles characters of several octets only. -/
private theorem step_wide (sound : state.Sound) (other : 0x80 ≤ octet.toNat) :
    (∀ character ∈ (step state octet).1, Wide character) ∧ (step state octet).2.Sound := by
  cases state with
  | start => exact begin_wide other
  | inside value missing low high =>
    by_cases within : low ≤ octet ∧ octet ≤ high
    · obtain ⟨least, most, tail, above, below, outside⟩ := sound
      have lower := UInt8.le_iff_toNat_le.mp within.1
      have upper := UInt8.le_iff_toNat_le.mp within.2
      -- What may still become of the character lies in the range that was open before.
      have from_low : (64 * value + (low.toNat - 0x80)) * spread missing ≤
          (64 * value + (octet.toNat - 0x80)) * spread missing :=
        Nat.mul_le_mul_right _ (by omega)
      have to_high : (64 * value + (octet.toNat - 0x80) + 1) * spread missing ≤
          (64 * value + (high.toNat - 0x80) + 1) * spread missing :=
        Nat.mul_le_mul_right _ (by omega)
      simp only [step, within, and_self, if_true]
      obtain rfl | rfl | rfl : missing = 1 ∨ missing = 2 ∨ missing = 3 := by omega
      · simp only [spread] at above below outside from_low to_high
        refine ⟨?_, trivial⟩
        simp only [Nat.le_refl, if_true, List.mem_singleton, forall_eq]
        apply wide_ofNat <;> omega
      all_goals
        simp only [spread] at above below outside from_low to_high
        simp [State.Sound, spread]
        omega
    · simp only [step, within, if_false]
      refine ⟨?_, (begin_wide other).2⟩
      rw [List.forall_mem_cons]
      exact ⟨wide_replacement, (begin_wide other).1⟩

private theorem step_sound (sound : state.Sound) : (step state octet).2.Sound := by
  by_cases ascii : octet.toNat < 0x80
  · rw [step_ascii sound ascii]
    trivial
  · exact (step_wide sound (Nat.le_of_not_lt ascii)).2

/-! ### Lines -/

/-- The octet that ends a line. -/
def lineFeed : UInt8 := 0x0A

private theorem lineFeed_narrow : ¬ Wide '\n' := by
  unfold Wide
  decide

private theorem lineFeed_not_mem_unfinished (state : State) : '\n' ∉ unfinished state := by
  cases state with
  | start => exact List.not_mem_nil
  | inside value missing low high =>
    rw [unfinished, List.mem_singleton]
    decide

/-- Only the octet of a line feed settles a line feed. -/
private theorem lineFeed_not_mem_step (sound : state.Sound) (other : octet ≠ lineFeed) :
    '\n' ∉ (step state octet).1 := by
  by_cases ascii : octet.toNat < 0x80
  · rw [step_ascii sound ascii, List.mem_append, List.mem_singleton, not_or]
    refine ⟨lineFeed_not_mem_unfinished state, fun same => other ?_⟩
    have code : octet.toNat = 10 := by
      rw [← toNat_ofNat (.inl (by omega) : octet.toNat.isValidChar), ← same]
      rfl
    exact UInt8.toNat_inj.mp code
  · intro settled
    exact lineFeed_narrow ((step_wide sound (Nat.le_of_not_lt ascii)).1 _ settled)

/-- What follows a state is cut where the octets are cut: the first line goes on with what was
begun, and each other line is decoded on its own. -/
theorem pieces_decodeFrom (sound : state.Sound) (octets : List UInt8) :
    ∃ first others, pieces lineFeed octets = first :: others ∧
      pieces '\n' (decodeFrom state octets) = decodeFrom state first :: others.map decode := by
  induction octets generalizing state with
  | nil =>
    refine ⟨[], [], rfl, ?_⟩
    rw [decodeFrom_nil]
    exact pieces_of_absent (lineFeed_not_mem_unfinished state)
  | cons octet rest ih =>
    by_cases ends : octet = lineFeed
    · subst ends
      obtain ⟨first, others, cut, lines⟩ := ih sound_start
      refine ⟨[], first :: others, by rw [pieces, if_pos rfl, cut], ?_⟩
      rw [decodeFrom_cons, step_ascii sound (by decide), List.append_assoc, List.singleton_append,
        decodeFrom_nil]
      exact (pieces_append_separator (lineFeed_not_mem_unfinished state)).trans
        (congrArg _ lines)
    · have next : (step state octet).2.Sound := step_sound sound
      obtain ⟨first, others, cut, lines⟩ := ih next
      refine ⟨octet :: first, others, by rw [pieces, if_neg ends, cut], ?_⟩
      rw [decodeFrom_cons, decodeFrom_cons]
      exact pieces_append (lineFeed_not_mem_step sound ends) lines

/-- Cutting into lines and decoding may be done in either order. -/
theorem pieces_decode (octets : List UInt8) :
    pieces '\n' (decode octets) = (pieces lineFeed octets).map decode := by
  obtain ⟨first, others, cut, lines⟩ := pieces_decodeFrom sound_start octets
  rw [cut]
  exact lines

/-! ### Words of ASCII -/

/-- An octet that settles nothing has begun a character or gone on with one. -/
private theorem inside_of_unsettled (silent : (step state octet).1 = []) :
    (step state octet).2 ≠ .start := by
  have begins : (begin octet).1 = [] → (begin octet).2 ≠ .start := by
    fun_cases begin octet <;> simp
  cases state with
  | start => exact begins silent
  | inside value missing low high =>
    revert silent
    simp only [step]
    split
    · split <;> simp
    · simp

private theorem head_cons_wide (sound : state.Sound) (other : 0x80 ≤ octet.toNat)
    {rest : List UInt8} (later : (step state octet).2 ≠ .start →
      ∀ character ∈ (decodeFrom (step state octet).2 rest).head?, Wide character) :
    ∀ character ∈ (decodeFrom state (octet :: rest)).head?, Wide character := by
  have settled := (step_wide sound other).1
  rw [decodeFrom_cons]
  cases silent : (step state octet).1 with
  | nil => exact later (inside_of_unsettled silent)
  | cons head tail =>
    rw [silent] at settled
    simpa using settled head List.mem_cons_self

private theorem head_unfinished_wide (begun : state ≠ .start) (rest : List Char) :
    ∀ character ∈ (unfinished state ++ rest).head?, Wide character := by
  cases state with
  | start => exact absurd rfl begun
  | inside value missing low high => simp [unfinished, wide_replacement]

/-- A character begun never becomes one of ASCII, whatever follows. -/
private theorem head_decodeFrom_wide (sound : state.Sound) (begun : state ≠ .start)
    (octets : List UInt8) : ∀ character ∈ (decodeFrom state octets).head?, Wide character := by
  induction octets generalizing state with
  | nil => simpa [decodeFrom_nil] using head_unfinished_wide begun []
  | cons octet rest ih =>
    by_cases ascii : octet.toNat < 0x80
    · rw [decodeFrom_cons, step_ascii sound ascii, List.append_assoc]
      exact head_unfinished_wide begun _
    · exact head_cons_wide sound (Nat.le_of_not_lt ascii) (ih (step_sound sound))

private theorem decode_ascii (ascii : octet.toNat < 0x80) (rest : List UInt8) :
    decode (octet :: rest) = Char.ofNat octet.toNat :: decode rest := by
  unfold decode
  rw [decodeFrom_cons, step_ascii sound_start ascii]
  rfl

private theorem head_decode_wide (other : 0x80 ≤ octet.toNat) (rest : List UInt8) :
    ∀ character ∈ (decode (octet :: rest)).head?, Wide character := by
  have sound := (step_wide sound_start other).2
  exact head_cons_wide sound_start other fun begun => head_decodeFrom_wide sound begun rest

/-- A word of ASCII stands at the front of a decoded text exactly when its octets stand at the front
of the octets. -/
theorem prefix_decode_iff {word : List Char} (ascii : ∀ character ∈ word, ¬ Wide character)
    (octets : List UInt8) :
    word <+: decode octets ↔
      word.map (fun character => UInt8.ofNat character.toNat) <+: octets := by
  induction word generalizing octets with
  | nil => simp
  | cons character word ih =>
    obtain ⟨narrow, ascii⟩ := List.forall_mem_cons.mp ascii
    have code : character.toNat < 0x80 := Nat.lt_of_not_le narrow
    cases octets with
    | nil => simp [decode, decodeFrom]
    | cons octet rest =>
      rw [List.map_cons, List.cons_prefix_cons]
      by_cases single : octet.toNat < 0x80
      · rw [decode_ascii single, List.cons_prefix_cons, ih ascii]
        refine and_congr_left fun _ => ⟨?_, ?_⟩
        · rintro rfl
          rw [toNat_ofNat (.inl (by omega)), UInt8.ofNat_toNat]
        · rintro rfl
          rw [UInt8.toNat_ofNat', Nat.mod_eq_of_lt (by omega), Char.ofNat_toNat]
      · -- The text then begins with a character of several octets, the word does not.
        have wide := head_decode_wide (Nat.le_of_not_lt single) rest
        constructor
        · rintro ⟨tail, same⟩
          rw [← same] at wide
          exact absurd (wide character rfl) narrow
        · rintro ⟨rfl, -⟩
          rw [UInt8.toNat_ofNat', Nat.mod_eq_of_lt (by omega)] at single
          exact absurd code single

/-- A word of ASCII never begins among characters of several octets. -/
private theorem infix_wide_append {word front : List Char}
    (ascii : ∀ character ∈ word, ¬ Wide character) (some : word ≠ [])
    (wide : ∀ character ∈ front, Wide character) (text : List Char) :
    word <:+: front ++ text ↔ word <:+: text := by
  obtain ⟨first, others, rfl⟩ := List.exists_cons_of_ne_nil some
  induction front with
  | nil => rfl
  | cons head front ih =>
    obtain ⟨wideHead, wide⟩ := List.forall_mem_cons.mp wide
    rw [List.cons_append, List.infix_cons_iff, ih wide, or_iff_right]
    intro begins
    obtain ⟨rfl, -⟩ := List.cons_prefix_cons.mp begins
    exact ascii first List.mem_cons_self wideHead

private theorem wide_unfinished (state : State) :
    ∀ character ∈ unfinished state, Wide character := by
  cases state with
  | start => exact List.forall_mem_nil _
  | inside value missing low high => simpa [unfinished] using wide_replacement

/-- A word of ASCII stands anywhere in a text that goes on from a state exactly when its octets
stand anywhere in the octets. -/
theorem infix_decodeFrom_iff {word : List Char} (ascii : ∀ character ∈ word, ¬ Wide character)
    (some : word ≠ []) (sound : state.Sound) (octets : List UInt8) :
    word <:+: decodeFrom state octets ↔
      word.map (fun character => UInt8.ofNat character.toNat) <:+: octets := by
  induction octets generalizing state with
  | nil =>
    have nowhere : ¬ word <:+: unfinished state ++ [] := by
      rw [infix_wide_append ascii some (wide_unfinished state), List.infix_nil]
      exact some
    rw [List.append_nil] at nowhere
    rw [decodeFrom_nil, List.infix_nil, List.map_eq_nil_iff]
    exact iff_of_false nowhere some
  | cons octet rest ih =>
    rw [List.infix_cons_iff]
    by_cases single : octet.toNat < 0x80
    · -- The octet stands for itself, so the word begins at its character or behind it.
      rw [decodeFrom_cons, step_ascii sound single, List.append_assoc,
        infix_wide_append ascii some (wide_unfinished state), List.singleton_append,
        List.infix_cons_iff, ih sound_start, ← prefix_decode_iff ascii, decode_ascii single]
      rfl
    · have several : 0x80 ≤ octet.toNat := Nat.le_of_not_lt single
      obtain ⟨settled, next⟩ := step_wide sound several
      rw [decodeFrom_cons, infix_wide_append ascii some settled, ih next, or_iff_right]
      rw [← prefix_decode_iff ascii]
      obtain ⟨first, others, rfl⟩ := List.exists_cons_of_ne_nil some
      rintro ⟨tail, same⟩
      have wide := head_decode_wide several rest
      rw [← same] at wide
      exact ascii first List.mem_cons_self (wide first rfl)

/-- A word of ASCII stands anywhere in a decoded text exactly when its octets stand anywhere in the
octets, whatever is ill-formed around them. -/
theorem infix_decode_iff {word : List Char} (ascii : ∀ character ∈ word, ¬ Wide character)
    (some : word ≠ []) (octets : List UInt8) :
    word <:+: decode octets ↔
      word.map (fun character => UInt8.ofNat character.toNat) <:+: octets :=
  infix_decodeFrom_iff ascii some sound_start octets

end Verdict.Utf8
