/-! Double-precision numbers as words of 64 bits, with exact rounding in natural-number arithmetic.
A finite number is `significand * 2 ^ scale` up to its sign. `ofRatio` rounds a quotient to the
nearest number, a tie to the even significand; reading decimals and integers goes through it. -/
namespace Verdict

/-! ### Numbers -/

/-- A double-precision number, given by its bit pattern. Two numbers are equal here when their
patterns are, so both zeros and all payloads of "not a number" are kept apart. -/
structure Binary64 where
  bits : UInt64
  deriving DecidableEq

namespace Binary64

/-- Two to the power of 63, the value of the topmost bit. -/
def signPlace : Nat := 0x8000000000000000

/-- Two to the power of 52, the number of fractions. -/
def fractionCount : Nat := 0x10000000000000

/-- The magnitude of infinity: the exponent field is all ones and the fraction is zero. -/
def infiniteMagnitude : Nat := 2047 * fractionCount

def isNegative (number : Binary64) : Bool := decide (signPlace ≤ number.bits.toNat)

/-- The bits below the sign. Magnitudes are ordered like the absolute values they stand for. -/
def magnitude (number : Binary64) : Nat := number.bits.toNat % signPlace

def exponentField (number : Binary64) : Nat := number.magnitude / fractionCount

def fractionField (number : Binary64) : Nat := number.magnitude % fractionCount

def isFinite (number : Binary64) : Bool := decide (number.magnitude < infiniteMagnitude)

def isNaN (number : Binary64) : Bool := decide (infiniteMagnitude < number.magnitude)

def isZero (number : Binary64) : Bool := decide (number.magnitude = 0)

/-- The integer `m` of a finite absolute value `m * 2 ^ scale`. -/
def significand (number : Binary64) : Nat :=
  if number.exponentField = 0 then number.fractionField
  else fractionCount + number.fractionField

/-- The power of two of a finite absolute value `significand * 2 ^ scale`. -/
def scale (number : Binary64) : Int :=
  if number.exponentField = 0 then -1074 else (number.exponentField : Int) - 1075

/-- The number with this sign and magnitude. -/
def ofMagnitude (negative : Bool) (magnitude : Nat) : Binary64 :=
  ⟨UInt64.ofNat ((if negative then signPlace else 0) + magnitude)⟩

def zero : Binary64 := ofMagnitude false 0

def infinity (negative : Bool) : Binary64 := ofMagnitude negative infiniteMagnitude

/-- The quiet "not a number" with an otherwise empty payload. -/
def nan : Binary64 := ofMagnitude false (infiniteMagnitude + fractionCount / 2)

/-- The nearest integer to a quotient; halfway goes to the even neighbour. -/
def roundHalfEven (numerator denominator : Nat) : Nat :=
  let quotient := numerator / denominator
  let twice := 2 * (numerator % denominator)
  if twice < denominator ∨ (twice = denominator ∧ quotient % 2 = 0) then quotient
  else quotient + 1

/-- The power of two in whose multiples a positive quotient is rounded: the quotient then has 53
binary digits, or fewer at the lowest power there is. -/
def roundingScale (numerator denominator : Nat) : Int :=
  let guess : Int := (numerator.log2 : Int) - denominator.log2 - 53
  let tooFine := decide
    (denominator * Nat.pow 2 (53 + guess).toNat ≤ numerator * Nat.pow 2 (-(53 + guess)).toNat)
  max (if tooFine then guess + 1 else guess) (-1074)

/-- The number nearest to a quotient, a tie going to the even significand. A quotient beyond the
largest finite number becomes infinite, and one too small for the least positive number zero.
Carries out of the significand need no care, because magnitudes are consecutive. -/
def ofRatio (negative : Bool) (numerator denominator : Nat) : Binary64 :=
  if numerator = 0 then ofMagnitude negative 0 else
  let scale := roundingScale numerator denominator
  let rounded := roundHalfEven (numerator * Nat.pow 2 (-scale).toNat)
    (denominator * Nat.pow 2 scale.toNat)
  ofMagnitude negative (min ((scale + 1074).toNat * fractionCount + rounded) infiniteMagnitude)

/-- The number nearest to an integer. -/
def ofInt (value : Int) : Binary64 := ofRatio (decide (value < 0)) value.natAbs 1

/-- The number nearest to `digits * 10 ^ exponent`. The exponent is first brought into the range
outside which the result is infinite or zero anyway, so its size does not matter. -/
def ofDecimal (negative : Bool) (digits : Nat) (exponent : Int) : Binary64 :=
  let exponent := max (min exponent 400) (-(400 + (digits.log2 : Int)))
  ofRatio negative (digits * Nat.pow 10 exponent.toNat) (Nat.pow 10 (-exponent).toNat)

end Binary64

/-! ### Reading

A whole number is an optional sign and decimal digits and must fit
its range. A decimal has digits with at most one point among or beside them and an optional power
of ten, or is a word for infinity or "not a number"; it is rounded once, to the nearest number. -/

/-- The value of a run of decimal digits; other characters have no business here. -/
def naturalOfDigits (digits : List Char) : Nat :=
  digits.foldl (fun value digit => 10 * value + (digit.toNat - '0'.toNat)) 0

/-- Takes a sign off the front of a text: true for a minus. Without one the text is positive. -/
def splitSign : List Char → Bool × List Char
  | '+' :: rest => (false, rest)
  | '-' :: rest => (true, rest)
  | rest => (false, rest)

/-- The digits at the front of a text, and what follows them. -/
def splitDigits (text : List Char) : List Char × List Char :=
  text.span Char.isDigit

/-- A signed integer of any size: an optional sign, then digits only, at least one. -/
def readInteger? (text : List Char) : Option Int :=
  let (negative, digits) := splitSign text
  if digits.isEmpty || !digits.all Char.isDigit then none
  else some (if negative then -(naturalOfDigits digits : Int) else naturalOfDigits digits)

/-- The integers that fit in 64 bits with a sign. -/
def fitsInt64 (value : Int) : Bool :=
  decide (-0x8000000000000000 ≤ value) && decide (value < 0x8000000000000000)

/-- The integers that fit in 32 bits with a sign. -/
def fitsInt32 (value : Int) : Bool :=
  decide (-0x80000000 ≤ value) && decide (value < 0x80000000)

/-- A signed integer that fits in 64 bits. -/
def readInt64? (text : List Char) : Option Int :=
  (readInteger? text).filter fitsInt64

/-- The number of words of 64 bits. -/
def wordCount : Nat := 0x10000000000000000

/-- An unsigned integer that fits in 64 bits. A plus sign is allowed, a minus sign is not. -/
def readNatural64? (text : List Char) : Option Nat :=
  if text.head? = some '-' then none
  else ((readInteger? text).map Int.toNat).filter (decide <| · < wordCount)

/-- The power of ten after the digits of a decimal: nothing, or `e` and an integer. -/
def readPowerOfTen? : List Char → Option Int
  | [] => some 0
  | mark :: rest => if mark = 'e' ∨ mark = 'E' then readInteger? rest else none

/-- An unsigned decimal: digits, at most one point, at least one digit in all, a power of ten. -/
def readMagnitude? (negative : Bool) (text : List Char) : Option Binary64 :=
  let (whole, rest) := splitDigits text
  let (part, rest) := match rest with
    | '.' :: rest => splitDigits rest
    | rest => ([], rest)
  if whole.isEmpty && part.isEmpty then none
  else (readPowerOfTen? rest).map fun power =>
    Binary64.ofDecimal negative (naturalOfDigits (whole ++ part)) (power - part.length)

/-- A decimal, or one of the words `inf`, `infinity` and `nan` in any case, with an optional
sign. The result is the number nearest to what the text says and may be infinite. -/
def readDecimal? (text : List Char) : Option Binary64 :=
  let (negative, rest) := splitSign text
  let word := String.ofList (rest.map Char.toLower)
  if word = "inf" ∨ word = "infinity" then some (Binary64.infinity negative)
  else if word = "nan" then some Binary64.nan
  else readMagnitude? negative rest

end Verdict
