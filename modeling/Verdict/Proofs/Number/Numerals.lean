import Mathlib.Data.List.TakeDrop
import Verdict.Number.Binary64
/-! Which texts are numbers. The numeral of an integer is read as this integer; a text with a
character that numbers are not written with is read as none. Rounding an integer of 64 bits gives a
finite number. -/
namespace Verdict

/-! ### The numerals of integers -/

theorem isDigit_toDigits {number : Nat} {digit : Char} (member : digit ∈ Nat.toDigits 10 number) :
    digit.isDigit = true :=
  Nat.isDigit_of_mem_toDigits (by decide) (by decide) member

/-- The numeral of an integer: a minus if it is negative, and the digits of its size. -/
theorem toList_toString (value : Int) : (toString value).toList =
    (if value < 0 then ['-'] else []) ++ Nat.toDigits 10 value.natAbs := by
  cases value with
  | ofNat number =>
    change number.repr.toList = _
    rw [Nat.repr_eq_ofList_toDigits, String.toList_ofList]
    rfl
  | negSucc number =>
    change ("-" ++ (number + 1).repr).toList = _
    rw [String.toList_append, Nat.repr_eq_ofList_toDigits, if_pos (Int.negSucc_lt_zero number)]
    exact congrArg _ String.toList_ofList

/-- Digits alone have no sign to take off. -/
private theorem splitSign_of_digits {digits : List Char}
    (plain : ∀ digit ∈ digits, digit.isDigit = true) : splitSign digits = (false, digits) := by
  unfold splitSign
  split
  · exact absurd (plain '+' List.mem_cons_self) (by decide)
  · exact absurd (plain '-' List.mem_cons_self) (by decide)
  · rfl

private theorem splitSign_toString (value : Int) : splitSign (toString value).toList =
    (decide (value < 0), Nat.toDigits 10 value.natAbs) := by
  rw [toList_toString]
  by_cases negative : value < 0
  · rw [if_pos negative, decide_eq_true negative]
    rfl
  · rw [if_neg negative, decide_eq_false negative]
    exact splitSign_of_digits fun _ => isDigit_toDigits

/-- An integer is read from its numeral. -/
theorem readInteger?_toString (value : Int) : readInteger? (toString value).toList = some value := by
  have some : (Nat.toDigits 10 value.natAbs).isEmpty = false :=
    List.isEmpty_eq_false_iff.mpr Nat.toDigits_ne_nil
  have digits : (Nat.toDigits 10 value.natAbs).all Char.isDigit = true :=
    List.all_eq_true.mpr fun _ => isDigit_toDigits
  have number : naturalOfDigits (Nat.toDigits 10 value.natAbs) = value.natAbs :=
    Nat.ofDigitChars_ten_toDigits
  simp only [readInteger?, splitSign_toString, some, digits, number, Bool.not_true, Bool.or_false,
    Bool.false_eq_true, if_false, decide_eq_true_eq, Option.some.injEq]
  split <;> omega

theorem readInt64?_toString {value : Int} (fits : fitsInt64 value = true) :
    readInt64? (toString value).toList = some value := by
  rw [readInt64?, readInteger?_toString, Option.filter_some, if_pos fits]

/-! ### Texts that are no numbers -/

/-- A character that stands in no number, and before all letters. -/
structure OutsideNumbers (character : Char) : Prop where
  early : character.toNat < 0x41
  noDigit : character.isDigit = false
  noSign : character ∉ ['+', '-', '.']

variable {character : Char} {text : List Char}

private theorem mem_splitSign (outside : OutsideNumbers character) (member : character ∈ text) :
    character ∈ (splitSign text).2 := by
  have noPlus : character ≠ '+' := fun same => outside.noSign (by simp [same])
  have noMinus : character ≠ '-' := fun same => outside.noSign (by simp [same])
  unfold splitSign
  split
  · exact (List.mem_cons.mp member).resolve_left noPlus
  · exact (List.mem_cons.mp member).resolve_left noMinus
  · exact member

private theorem mem_splitDigits (outside : OutsideNumbers character) (member : character ∈ text) :
    character ∈ (splitDigits text).2 := by
  rw [splitDigits, List.span_eq_takeWhile_dropWhile]
  rw [← List.takeWhile_append_dropWhile (p := Char.isDigit) (l := text), List.mem_append] at member
  refine member.resolve_left fun digit => ?_
  have isDigit := List.all_eq_true.mp List.all_takeWhile _ digit
  rw [outside.noDigit] at isDigit
  cases isDigit

private theorem readInteger?_of_outside (outside : OutsideNumbers character)
    (member : character ∈ text) : readInteger? text = none := by
  have kept := mem_splitSign outside member
  have noDigits : (splitSign text).2.all Char.isDigit = false := by
    rw [List.all_eq_false]
    exact ⟨character, kept, by rw [outside.noDigit]; decide⟩
  simp [readInteger?, noDigits]

theorem readInt64?_of_outside (outside : OutsideNumbers character) (member : character ∈ text) :
    readInt64? text = none := by
  rw [readInt64?, readInteger?_of_outside outside member]
  rfl

private theorem readPowerOfTen?_of_outside (outside : OutsideNumbers character)
    (member : character ∈ text) : readPowerOfTen? text = none := by
  cases text with
  | nil => cases member
  | cons mark rest =>
    rw [readPowerOfTen?]
    split
    · rename_i isMark
      have noMark : character ≠ mark := by
        have early := outside.early
        rintro rfl
        rcases isMark with rfl | rfl <;> exact absurd early (by decide)
      exact readInteger?_of_outside outside ((List.mem_cons.mp member).resolve_left noMark)
    · rfl

private theorem readMagnitude?_of_outside (outside : OutsideNumbers character)
    (member : character ∈ text) (negative : Bool) : readMagnitude? negative text = none := by
  have noPoint : character ≠ '.' := fun same => outside.noSign (by simp [same])
  have rest := mem_splitDigits outside member
  simp only [readMagnitude?]
  split
  · rename_i following same
    rw [same] at rest
    have behindPoint := (List.mem_cons.mp rest).resolve_left noPoint
    rw [readPowerOfTen?_of_outside outside (mem_splitDigits outside behindPoint)]
    exact ite_self none
  · rw [readPowerOfTen?_of_outside outside rest]
    exact ite_self none

/-- A word of letters has no character that comes before all of them. -/
theorem not_mem_of_early {word : String} (early : character.toNat < 0x41)
    (letters : word.toList.all (decide <| 0x41 ≤ ·.toNat) = true) : character ∉ word.toList := by
  intro member
  have late := of_decide_eq_true (List.all_eq_true.mp letters character member)
  omega

theorem readDecimal?_of_outside (outside : OutsideNumbers character) (member : character ∈ text) :
    readDecimal? text = none := by
  have kept := mem_splitSign outside member
  have small : character.toLower = character := by
    refine dif_neg fun capital => ?_
    exact absurd outside.early (Nat.not_lt.mpr (UInt32.le_iff_toNat_le.mp capital.1))
  have listed : character ∈ (String.ofList ((splitSign text).2.map Char.toLower)).toList := by
    rw [String.toList_ofList]
    exact List.mem_map.mpr ⟨character, kept, small⟩
  have noWord (word : String) (letters : word.toList.all (decide <| 0x41 ≤ ·.toNat) = true) :
      String.ofList ((splitSign text).2.map Char.toLower) ≠ word := by
    rintro rfl
    exact not_mem_of_early outside.early letters listed
  have noInf := noWord "inf" (by decide)
  have noInfinity := noWord "infinity" (by decide)
  have noNaN := noWord "nan" (by decide)
  simp only [readDecimal?, noInf, noInfinity, noNaN, or_self, if_false]
  exact readMagnitude?_of_outside outside kept _

/-! ### Rounding integers

The significand of an integer of 64 bits has at most 53 binary digits before the last carry, and its
power of two is far from the largest one, so the result is finite. -/

namespace Binary64

private theorem magnitude_ofMagnitude {negative : Bool} {magnitude : Nat}
    (small : magnitude < signPlace) : (ofMagnitude negative magnitude).magnitude = magnitude := by
  have word : (if negative then signPlace else 0) + magnitude < 2 ^ 64 := by
    unfold signPlace at *
    split <;> omega
  have bits : (ofMagnitude negative magnitude).bits.toNat =
      (if negative then signPlace else 0) + magnitude :=
    UInt64.toNat_ofNat'.trans (Nat.mod_eq_of_lt word)
  rw [Binary64.magnitude, bits]
  unfold signPlace at *
  split <;> omega

private theorem isFinite_ofMagnitude {negative : Bool} {magnitude : Nat}
    (small : magnitude < infiniteMagnitude) : (ofMagnitude negative magnitude).isFinite = true := by
  have below : magnitude < signPlace := by
    unfold infiniteMagnitude fractionCount at small
    unfold signPlace
    omega
  rw [isFinite, magnitude_ofMagnitude below]
  exact decide_eq_true small

private theorem roundHalfEven_le (numerator denominator : Nat) :
    roundHalfEven numerator denominator ≤ numerator / denominator + 1 := by
  simp only [roundHalfEven]
  split <;> omega

/-- A positive integer is rounded to 53 binary digits, counted from its first. -/
private theorem roundingScale_one {number : Nat} (positive : number ≠ 0) :
    roundingScale number 1 = (number.log2 : Int) - 52 := by
  have first : 2 ^ number.log2 ≤ number := Nat.log2_self_le positive
  have one : Nat.log2 1 = 0 := by decide
  have guess : (53 : Int) + ((number.log2 : Int) - (0 : Nat) - 53) = number.log2 := by omega
  have fits : 1 * Nat.pow 2 (number.log2 : Int).toNat ≤
      number * Nat.pow 2 (-(number.log2 : Int)).toNat := by
    have zero : (-(number.log2 : Int)).toNat = 0 := by omega
    rw [zero, Int.toNat_natCast]
    simpa using first
  simp only [roundingScale, one, guess, decide_eq_true fits, if_true]
  omega

/-- Scaled to its rounding, a positive integer has 53 binary digits. -/
private theorem scaled_lt (number : Nat) :
    number * Nat.pow 2 (52 - number.log2) / (1 * Nat.pow 2 (number.log2 - 52)) <
      2 * fractionCount := by
  change number * 2 ^ (52 - number.log2) / (1 * 2 ^ (number.log2 - 52)) < 2 ^ 53
  rw [Nat.one_mul, Nat.div_lt_iff_lt_mul (Nat.two_pow_pos _)]
  have digits : number < 2 ^ (number.log2 + 1) := Nat.lt_log2_self
  calc number * 2 ^ (52 - number.log2)
      < 2 ^ (number.log2 + 1) * 2 ^ (52 - number.log2) :=
        Nat.mul_lt_mul_of_pos_right digits (Nat.two_pow_pos _)
    _ = 2 ^ 53 * 2 ^ (number.log2 - 52) := by
        rw [← Nat.pow_add, ← Nat.pow_add]
        congr 1
        omega

/-- An integer that fits in 64 bits, with a sign or without, is near a finite number. -/
theorem isFinite_ofInt {value : Int} (lower : -0x8000000000000000 ≤ value)
    (upper : value < 0x10000000000000000) : (ofInt value).isFinite = true := by
  unfold ofInt ofRatio
  split
  · exact isFinite_ofMagnitude (by decide)
  · rename_i positive
    have width : value.natAbs.log2 < 64 := (Nat.log2_lt positive).mpr (by omega)
    have downward : (-((value.natAbs.log2 : Int) - 52)).toNat = 52 - value.natAbs.log2 := by omega
    have upward : ((value.natAbs.log2 : Int) - 52).toNat = value.natAbs.log2 - 52 := by omega
    have rounded := roundHalfEven_le (value.natAbs * Nat.pow 2 (52 - value.natAbs.log2))
      (1 * Nat.pow 2 (value.natAbs.log2 - 52))
    have scaled := scaled_lt value.natAbs
    simp only [roundingScale_one positive, downward, upward]
    apply isFinite_ofMagnitude
    unfold infiniteMagnitude
    unfold fractionCount at *
    omega

end Binary64

end Verdict
