import Verdict.Number.Binary64
import Verdict.Settings.Layers
import Verdict.Text.Basic
/-! The values of TOML that are written as a word: truth values, integers in four bases, decimals,
and moments of time, which are kept as texts. -/
namespace Verdict.Toml

/-- The characters of words. -/
def isWordCharacter (character : Char) : Bool :=
  character.isAlphanum || character == '+' || character == '-' || character == '_'
    || character == '.' || character == ':'

/-- Digits in groups, an underscore between two groups, without the underscores. -/
def ungroup? (isDigit : Char → Bool) (text : List Char) : Option (List Char) :=
  let groups := pieces '_' text
  if groups.all fun group => !group.isEmpty && group.all isDigit then some groups.flatten else none

/-- The whole part of a number in base ten: no zero in front of other digits. -/
def decimalDigits? (text : List Char) : Option (List Char) :=
  (ungroup? Char.isDigit text).filter fun digits => digits.head? ≠ some '0' || digits.length = 1

/-- The value of a digit up to base sixteen. -/
def digitValue (character : Char) : Nat :=
  if character.isDigit then character.toNat - '0'.toNat
  else character.toLower.toNat - 'a'.toNat + 10

/-- An integer in another base, whose digits follow its mark. -/
def integerInBase? (base : Nat) (text : List Char) : Option Int :=
  (ungroup? (fun digit => digit.isAlphanum && decide (digitValue digit < base)) text).map fun digits =>
    (digits.foldl (fun value digit => base * value + digitValue digit) 0 : Nat)

/-- An integer of 64 bits. -/
def integer? (word : List Char) : Option Int :=
  let value := match word with
    | '0' :: 'x' :: digits => integerInBase? 16 digits
    | '0' :: 'o' :: digits => integerInBase? 8 digits
    | '0' :: 'b' :: digits => integerInBase? 2 digits
    | _ =>
      let (negative, digits) := splitSign word
      (decimalDigits? digits).map fun digits =>
        if negative then -(naturalOfDigits digits : Int) else naturalOfDigits digits
  value.filter fitsInt64

/-- A decimal: a whole part and a fraction or a power of ten or both. It must not be too large to
be finite. -/
def decimal? (word : List Char) : Option Binary64 :=
  let (negative, digits) := splitSign word
  let (mantissa, power) := digits.span fun character => character ≠ 'e' && character ≠ 'E'
  let (whole, fraction) := mantissa.span (· ≠ '.')
  if fraction.isEmpty && power.isEmpty then none
  else do
    let whole ← decimalDigits? whole
    let fraction ← if fraction.isEmpty then some [] else ungroup? Char.isDigit fraction.tail
    let power ← if power.isEmpty then some 0
      else
        let (negative, digits) := splitSign power.tail
        (ungroup? Char.isDigit digits).map fun digits =>
          if negative then -(naturalOfDigits digits : Int) else naturalOfDigits digits
    let value := Binary64.ofDecimal negative (naturalOfDigits (whole ++ fraction))
      (power - fraction.length)
    if value.isFinite then some value else none

/-- The words for infinity and "not a number", with an optional sign. -/
def specialDecimal? (word : List Char) : Option Binary64 :=
  let (negative, rest) := splitSign word
  if rest = "inf".toList then some (Binary64.infinity negative)
  else if rest = "nan".toList then some Binary64.nan
  else none

/-- A number of exactly so many digits between two bounds. -/
def boundedDigits? (count low high : Nat) (text : List Char) : Option Nat :=
  let value := naturalOfDigits text
  if text.length = count ∧ text.all Char.isDigit ∧ low ≤ value ∧ value ≤ high then some value
  else none

def daysInMonth (year month : Nat) : Nat :=
  if month = 2 then
    if year % 4 = 0 ∧ (year % 100 ≠ 0 ∨ year % 400 = 0) then 29 else 28
  else if month = 4 ∨ month = 6 ∨ month = 9 ∨ month = 11 then 30
  else 31

/-- A day of the calendar, as `year-month-day`. -/
def isDate (text : List Char) : Bool :=
  match pieces '-' text with
  | [year, month, day] =>
    match boundedDigits? 4 0 9999 year, boundedDigits? 2 1 12 month with
    | some year, some month => (boundedDigits? 2 1 (daysInMonth year month) day).isSome
    | _, _ => false
  | _ => false

/-- The digits of a fraction as they are shown: the first nine without the zeros at their end, but
never none. -/
def shownFraction (digits : List Char) : List Char :=
  let counting := ((digits.take 9).reverse.dropWhile (· = '0')).reverse
  if counting.isEmpty then ['0'] else counting

/-- The seconds of a time as they are shown, with the mark before them. -/
def seconds? (text : List Char) : Option (List Char) :=
  let (second, fraction) := text.span (· ≠ '.')
  match boundedDigits? 2 0 60 second, fraction with
  | none, _ => none
  | some _, [] => some (':' :: second)
  | some _, _ :: digits =>
    if digits.isEmpty || !digits.all Char.isDigit then none
    else some (':' :: second ++ '.' :: shownFraction digits)

/-- A time of day as it is shown: hours and minutes, and seconds if there are any. -/
def time? (text : List Char) : Option (List Char) :=
  match pieces ':' text with
  | hour :: minute :: seconds =>
    let shown := match seconds with
      | [] => some []
      | [seconds] => seconds? seconds
      | _ => none
    match boundedDigits? 2 0 23 hour, boundedDigits? 2 0 59 minute, shown with
    | some _, some _, some shown => some (hour ++ ':' :: minute ++ shown)
    | _, _, _ => none
  | _ => none

/-- The distance of a time from the common one, as it is shown. No distance has no direction. -/
def offset? (text : List Char) : Option (List Char) :=
  match text with
  | ['Z'] | ['z'] => some ['Z']
  | sign :: rest =>
    match pieces ':' rest with
    | [hours, minutes] =>
      match boundedDigits? 2 0 23 hours, boundedDigits? 2 0 59 minutes with
      | some hour, some minute =>
        if sign = '+' ∨ (sign = '-' ∧ hour + minute = 0) then some ('+' :: rest)
        else if sign = '-' then some text
        else none
      | _, _ => none
    | _ => none
  | [] => none

/-- A moment of time as it is shown: a date, a time, or both, the latter with or without the
distance from the common time. -/
def moment? (word : List Char) : Option (List Char) :=
  let date := word.take 10
  if isDate date then
    match word.drop 10 with
    | [] => some date
    | separator :: rest =>
      if separator ≠ 'T' ∧ separator ≠ 't' ∧ separator ≠ ' ' then none
      else
        let (time, offset) := rest.span fun character => character.isDigit || character == ':'
          || character == '.'
        match time? time, if offset.isEmpty then some [] else offset? offset with
        | some time, some offset => some (date ++ 'T' :: time ++ offset)
        | _, _ => none
  else time? word

/-- The value of a word. -/
def scalar? (word : List Char) : Option ConfigValue :=
  if word = "true".toList then some (.bool true)
  else if word = "false".toList then some (.bool false)
  else
    match integer? word with
    | some value => some (.int value)
    | none =>
      match (specialDecimal? word).or (decimal? word) with
      | some value => some (.float value)
      | none => (moment? word).map fun moment => .text (String.ofList moment)

/-- A value written as a word. A date takes a time after one space with it. -/
def readScalar (text : List Char) : Option (ConfigValue × List Char) :=
  let (word, rest) := text.span isWordCharacter
  let (word, rest) := match rest with
    | ' ' :: digit :: _ =>
      if isDate word ∧ digit.isDigit then
        let (time, rest) := (rest.drop 1).span isWordCharacter
        (word ++ ' ' :: time, rest)
      else (word, rest)
    | _ => (word, rest)
  (scalar? word).map (·, rest)

end Verdict.Toml
