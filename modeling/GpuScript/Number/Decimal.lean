import GpuScript.Number.Float

namespace GpuScript

/-- Digits of a nonnegative number with the power of ten of the last one. -/
structure Decimal where
  digits : Nat
  exponent : Int
  deriving DecidableEq

namespace Decimal

/-- Number of decimal digits of a positive number. -/
def width (digits : Nat) : Nat := (Nat.toDigits 10 digits).length

/-- The integers with the ratio `digits * 10 ^ exponent`. -/
def ratio (decimal : Decimal) : Nat × Nat :=
  if 0 ≤ decimal.exponent then (decimal.digits * 10 ^ decimal.exponent.toNat, 1)
  else (decimal.digits, 10 ^ (-decimal.exponent).toNat)

/-- The double nearest to a decimal. Every decimal from `10 ^ 310` up is past the largest double and
every one below `10 ^ (-330)` is nearer to zero than to the least, so their powers are not built. -/
def toDouble (decimal : Decimal) (negative : Bool) : Double :=
  let top := (width decimal.digits : Int) + decimal.exponent
  if decimal.digits = 0 ∨ top < -330 then .ofRatio negative 0 1
  else if 310 < top then
    ⟨UInt64.ofNat (BinaryLayout.double.withSign negative BinaryLayout.double.infinity)⟩
  else .ofRatio negative decimal.ratio.1 decimal.ratio.2

/-- Splits off the digits at the front. -/
def spanDigits (text : List Char) : List Char × List Char := text.span Char.isDigit

/-- The number that a row of digits spells. -/
def ofDigits (text : List Char) : Nat :=
  text.foldl (fun value digit => 10 * value + (digit.toNat - '0'.toNat)) 0

/-- A number with an optional sign in front. -/
def ofSigned : List Char → Int
  | '-' :: text => -(ofDigits text : Int)
  | '+' :: text => ofDigits text
  | text => ofDigits text

/-- Reads `digits`, `digits.digits` and an exponent after `e` or `E`; the text has this form. -/
def ofText (text : List Char) : Decimal :=
  let (whole, rest) := spanDigits text
  let (fraction, rest) := match rest with
    | '.' :: rest => spanDigits rest
    | _ => ([], rest)
  let power := match rest with
    | _ :: power => ofSigned power
    | [] => 0
  ⟨ofDigits (whole ++ fraction), power - fraction.length⟩

/-- Fixes the exponent of a decimal's first digit: `0.00123` and `1230` have points -2 and 4. -/
def point (decimal : Decimal) : Int := (width decimal.digits : Int) + decimal.exponent

end Decimal

namespace Double

/-- The double nearest to a literal with an optional minus sign. -/
def ofLiteral : List Char → Double
  | '-' :: text => (Decimal.ofText text).toDouble true
  | text => (Decimal.ofText text).toDouble false

/-- The text of a finite magnitude, or the name of what is not finite, with its sign. -/
def signedText (value : Double) (magnitude : Nat → Int → String) : String :=
  match value.decode with
  | .nan .. => "NaN"
  | .infinite negative => if negative then "-inf" else "inf"
  | .finite negative significand exponent =>
    (if negative then "-" else "") ++ magnitude significand exponent

/-- The number with six decimal places, a half going to the even last digit. -/
def toFixedText (value : Double) : String :=
  value.signedText fun significand exponent =>
    let scaled := BinaryLayout.scaleRatio (significand * 10 ^ 6) 1 (-exponent)
    let units := BinaryLayout.roundQuotient scaled.1 scaled.2
    let places := toString (units % 10 ^ 6)
    toString (units / 10 ^ 6) ++ "." ++
      String.ofList (List.replicate (6 - places.length) '0') ++ places

/-- The two decimals of `count` digits on either side of a positive ratio with this point. -/
private def gridNeighbours (numerator denominator : Nat) (point : Int) (count : Nat) :
    Decimal × Decimal × Ordering :=
  let exponent := point - count
  let scaled : Nat × Nat :=
    if 0 ≤ exponent then (numerator, denominator * 10 ^ exponent.toNat)
    else (numerator * 10 ^ (-exponent).toNat, denominator)
  let low := scaled.1 / scaled.2
  (⟨low, exponent⟩, ⟨low + 1, exponent⟩, compare (2 * (scaled.1 % scaled.2)) scaled.2)

/-- The nearest decimal that reads back on the first grid of digit counts that holds one. -/
private def shortestFrom (code : Nat) (numerator denominator : Nat) (point : Int) :
    (budget count : Nat) → Decimal
  | 0, count => (gridNeighbours numerator denominator point count).1
  | budget + 1, count =>
    let (low, high, half) := gridNeighbours numerator denominator point count
    let reads (decimal : Decimal) : Bool :=
      BinaryLayout.double.roundMagnitude decimal.ratio.1 decimal.ratio.2 == code
    match reads low, reads high with
    | true, false => low
    | false, true => high
    | true, true =>
      if half = .lt ∨ (half = .eq ∧ low.digits % 2 = 0) then low else high
    | false, false => shortestFrom code numerator denominator point budget (count + 1)

/-- The decimal point of a positive ratio: `10 ^ (point - 1) ≤ ratio < 10 ^ point`. -/
private def ratioPoint (numerator denominator : Nat) : Int :=
  if denominator ≤ numerator then Decimal.width (numerator / denominator)
  else
    -- `denominator / numerator` has `n` digits: the ratio is in `(10 ^ (-n), 10 ^ (1 - n)]`.
    let whole := denominator / numerator
    let digits := Decimal.width whole
    if denominator = numerator * 10 ^ (digits - 1) then 2 - (digits : Int) else 1 - (digits : Int)

/-- Drops zeros at the end of the digits, at most `budget` of them. -/
private def trimZeros : (budget : Nat) → Decimal → Decimal
  | 0, decimal => decimal
  | budget + 1, decimal =>
    if decimal.digits ≠ 0 ∧ decimal.digits % 10 = 0 then
      trimZeros budget ⟨decimal.digits / 10, decimal.exponent + 1⟩
    else decimal

/-- The fewest digits that read back as the magnitude `significand * 2 ^ exponent`. -/
def shortestDecimal (significand : Nat) (exponent : Int) : Decimal :=
  if significand = 0 then ⟨0, 0⟩
  else
    let scaled := BinaryLayout.scaleRatio significand 1 (-exponent)
    let code := BinaryLayout.double.roundMagnitude scaled.1 scaled.2
    trimZeros 20 (shortestFrom code scaled.1 scaled.2 (ratioPoint scaled.1 scaled.2) 17 1)

end Double

/-- One past the largest 32-bit word. -/
def wordLimit : Nat := 2 ^ 32

/-- The largest 32-bit word, which stands for "not set" in slots and indices. -/
def wordMax : Nat := wordLimit - 1

/-- The word that a nonempty row of digits spells, if it is one. -/
def wordOfDigits? (text : List Char) : Option Nat :=
  if !text.isEmpty && text.all Char.isDigit && Decimal.ofDigits text < wordLimit then
    some (Decimal.ofDigits text)
  else none

/-- The word that digits spell, after one plus sign or none. -/
def wordOfText? : List Char → Option Nat
  | '+' :: digits => wordOfDigits? digits
  | digits => wordOfDigits? digits

end GpuScript
