import Verdict.Number.Binary64
/-! The shortest decimal that reads back as a given double-precision number, and its layout as
text. Among the decimals with the fewest digits the nearest to the number is taken; the layout of
a format says where a tie goes, which sizes are written positionally and how the rest looks. -/
namespace Verdict

/-- A positive decimal `digits * 10 ^ power`. -/
structure Decimal where
  digits : Nat
  power : Int
  deriving DecidableEq

/-- Where an exact tie between two equally short decimals goes. -/
inductive Tie where
  | toEven
  | up
  deriving DecidableEq

/-- The decimals that read back as one positive number: all strictly between the two bounds, and
the bounds too if `closed`. Everything is a multiple of `unit`, a quotient of naturals. -/
structure ReadBack where
  low : Nat
  value : Nat
  high : Nat
  unitNumerator : Nat
  unitDenominator : Nat
  closed : Bool

namespace ReadBack

/-- The bounds lie halfway to the neighbouring numbers. The lower neighbour of a power of two is
only half as far away as the upper one. A bound itself reads back when the significand is even. -/
def of (number : Binary64) : ReadBack :=
  let significand := number.significand
  let quarterScale := number.scale - 2
  let narrow := decide (number.fractionField = 0) && decide (1 < number.exponentField)
  { low := 4 * significand - (if narrow then 1 else 2)
    value := 4 * significand
    high := 4 * significand + 2
    unitNumerator := Nat.pow 2 quarterScale.toNat
    unitDenominator := Nat.pow 2 (-quarterScale).toNat
    closed := decide (significand % 2 = 0) }

/-- Whether `digits * 10 ^ power` is among the decimals. -/
def contains (range : ReadBack) (digits : Nat) (power : Int) : Bool :=
  let point := digits * Nat.pow 10 power.toNat * range.unitDenominator
  let unit := range.unitNumerator * Nat.pow 10 (-power).toNat
  if range.closed then decide (range.low * unit ≤ point) && decide (point ≤ range.high * unit)
  else decide (range.low * unit < point) && decide (point < range.high * unit)

/-- The multiple of `10 ^ power` that is at most the number, in units of that power, and twice the
remainder compared with the step to the next multiple. -/
def below (range : ReadBack) (power : Int) : Nat × Ordering :=
  let point := range.value * range.unitNumerator * Nat.pow 10 (-power).toNat
  let step := range.unitDenominator * Nat.pow 10 power.toNat
  (point / step, compare (2 * (point % step)) step)

/-- The multiple of `10 ^ power` that reads back and is nearest to the number, if one does. -/
def onGrid (range : ReadBack) (tie : Tie) (power : Int) : Option Nat :=
  let (floor, half) := range.below power
  let floorHits := range.contains floor power
  let ceilingHits := range.contains (floor + 1) power
  if floorHits && ceilingHits then
    match half, tie with
    | .lt, _ => some floor
    | .gt, _ => some (floor + 1)
    | .eq, .up => some (floor + 1)
    | .eq, .toEven => some (if floor % 2 = 0 then floor else floor + 1)
  else if floorHits then some floor
  else if ceilingHits then some (floor + 1)
  else none

/-- Tries ever finer grids and takes the first one with a decimal that reads back. -/
def search (range : ReadBack) (tie : Tie) : Nat → Int → Decimal
  | 0, power => ⟨(range.below power).1, power⟩
  | tries + 1, power =>
    match range.onGrid tie power with
    | some digits => ⟨digits, power⟩
    | none => range.search tie tries (power - 1)

end ReadBack

/-- The shortest decimal that reads back as the absolute value of a finite number other than zero.
The search starts above the leading digit; seventeen digits always suffice. -/
def Binary64.shortest (number : Binary64) (tie : Tie) : Decimal :=
  let leading := (number.significand.log2 : Int) + number.scale + 1
  (ReadBack.of number).search tie 22 (Int.fdiv (leading * 30103) 100000 + 2)

/-- How a format writes numbers. -/
structure NumberLayout where
  /-- Where an exact tie between two equally short decimals goes. -/
  tie : Tie
  /-- The powers of the leading digit that are written positionally; the rest have an exponent. -/
  positional : Int → Bool
  /-- What is written after a number without a fraction. -/
  wholeEnding : String
  notANumber : String
  infinity : String
  negativeInfinity : String

namespace NumberLayout

private def decimalText (digits : Nat) : List Char := Nat.toDigits 10 digits

/-- A decimal without an exponent: the point is put where the power says. -/
def positionalText (layout : NumberLayout) (decimal : Decimal) : List Char :=
  let digits := decimalText decimal.digits
  if 0 ≤ decimal.power then
    digits ++ List.replicate decimal.power.toNat '0' ++ layout.wholeEnding.toList
  else
    let places := (-decimal.power).toNat
    if places < digits.length then
      digits.take (digits.length - places) ++ '.' :: digits.drop (digits.length - places)
    else '0' :: '.' :: List.replicate (places - digits.length) '0' ++ digits

/-- A decimal with an exponent: one digit before the point, and the sign of the exponent always
written. -/
def scientificText (decimal : Decimal) (leading : Int) : List Char :=
  let mantissa := match decimalText decimal.digits with
    | [] => []
    | [digit] => [digit]
    | digit :: rest => digit :: '.' :: rest
  mantissa ++ 'e' :: (if leading < 0 then '-' else '+') :: decimalText leading.natAbs

/-- The text of a number in this layout. Zero keeps its sign. -/
def text (layout : NumberLayout) (number : Binary64) : String :=
  if number.isNaN then layout.notANumber
  else if !number.isFinite then
    if number.isNegative then layout.negativeInfinity else layout.infinity
  else
    let sign := if number.isNegative then ['-'] else []
    let body :=
      if number.isZero then '0' :: layout.wholeEnding.toList
      else
        let decimal := number.shortest layout.tie
        let leading := decimal.power + (decimalText decimal.digits).length - 1
        if layout.positional leading then layout.positionalText decimal
        else scientificText decimal leading
    String.ofList (sign ++ body)

end NumberLayout

/-- Plain numbers: never an exponent, no fraction where there is none, a tie goes up. -/
def plainNumber : NumberLayout where
  tie := .up
  positional := fun _ => true
  wholeEnding := ""
  notANumber := "NaN"
  infinity := "inf"
  negativeInfinity := "-inf"

end Verdict
