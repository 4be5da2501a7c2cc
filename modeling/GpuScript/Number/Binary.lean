/-! Binary interchange numbers: what a bit pattern denotes, and how an exact ratio is rounded to the
nearest pattern. Patterns are kept as words, so equality tells `0.0` from `-0.0` and one NaN from
another. -/
namespace GpuScript

/-- Powers are taken as the core library takes them, in modules that know of another way too. -/
@[default_instance 11000]
instance (priority := high) corePow {Number : Type} [NatPow Number] : Pow Number Nat := instPowNat

/-- A sign bit above an exponent field above a fraction field. -/
structure BinaryLayout where
  fractionBits : Nat
  exponentBits : Nat

/-- What a bit pattern denotes; a finite number is `significand * 2 ^ exponent` with its sign. -/
inductive BinaryNumber where
  | finite (negative : Bool) (significand : Nat) (exponent : Int)
  | infinite (negative : Bool)
  | nan (negative : Bool) (payload : Nat)

namespace BinaryLayout

/-- The 32-bit layout. -/
def single : BinaryLayout := ⟨23, 8⟩

/-- The 64-bit layout. -/
def double : BinaryLayout := ⟨52, 11⟩

/-- Weight of the sign bit. -/
def signWeight (layout : BinaryLayout) : Nat := 2 ^ (layout.fractionBits + layout.exponentBits)

/-- The largest value of the exponent field, kept for infinities and NaNs. -/
def exponentLimit (layout : BinaryLayout) : Nat := 2 ^ layout.exponentBits - 1

/-- The pattern of positive infinity; every smaller pattern is a finite magnitude. -/
def infinity (layout : BinaryLayout) : Nat := layout.exponentLimit * 2 ^ layout.fractionBits

/-- Exponent of the last place of the smallest numbers. -/
def leastExponent (layout : BinaryLayout) : Int :=
  2 - (2 ^ (layout.exponentBits - 1) : Nat) - layout.fractionBits

/-- The sign bit of a pattern. -/
def withSign (layout : BinaryLayout) (negative : Bool) (magnitude : Nat) : Nat :=
  if negative then layout.signWeight + magnitude else magnitude

/-- Reads a pattern. -/
def decode (layout : BinaryLayout) (code : Nat) : BinaryNumber :=
  let negative := code / layout.signWeight % 2 == 1
  let field := code / 2 ^ layout.fractionBits % 2 ^ layout.exponentBits
  let fraction := code % 2 ^ layout.fractionBits
  if field = layout.exponentLimit then
    if fraction = 0 then .infinite negative else .nan negative fraction
  else if field = 0 then .finite negative fraction layout.leastExponent
  else .finite negative (2 ^ layout.fractionBits + fraction) (layout.leastExponent + field - 1)

/-- A quotient rounded to the nearest integer, a tie to the even one. -/
def roundQuotient (numerator denominator : Nat) : Nat :=
  let quotient := numerator / denominator
  let twice := 2 * (numerator % denominator)
  if twice > denominator ∨ (twice = denominator ∧ quotient % 2 = 1) then quotient + 1
  else quotient

/-- The pair of integers with the ratio `numerator / (denominator * 2 ^ exponent)`. -/
def scaleRatio (numerator denominator : Nat) (exponent : Int) : Nat × Nat :=
  if 0 ≤ exponent then (numerator, denominator * 2 ^ exponent.toNat)
  else (numerator * 2 ^ (-exponent).toNat, denominator)

/-- Exponent of the last place that the nearest pattern to a positive ratio has. -/
def lastPlace (layout : BinaryLayout) (numerator denominator : Nat) : Int :=
  let estimate : Int := (numerator.log2 : Int) - denominator.log2
  let scaled := scaleRatio numerator denominator estimate
  let leading := if scaled.2 ≤ scaled.1 then estimate else estimate - 1
  max (leading - layout.fractionBits) layout.leastExponent

/-- The magnitude pattern nearest to a ratio, a tie to the even pattern; a ratio out of range gives
infinity. Rounding up to a power of two carries into the exponent field by itself. -/
def roundMagnitude (layout : BinaryLayout) (numerator denominator : Nat) : Nat :=
  if numerator = 0 then 0
  else
    let place := layout.lastPlace numerator denominator
    let scaled := scaleRatio numerator denominator place
    let code := (place - layout.leastExponent).toNat * 2 ^ layout.fractionBits +
      roundQuotient scaled.1 scaled.2
    min code layout.infinity

/-- The pattern nearest to `significand * 2 ^ exponent` with its sign. -/
def encodeFinite (layout : BinaryLayout) (negative : Bool) (significand : Nat)
    (exponent : Int) : Nat :=
  let scaled := scaleRatio significand 1 (-exponent)
  layout.withSign negative (layout.roundMagnitude scaled.1 scaled.2)

/-- The pattern of a denoted number: nearest when finite; a NaN is made quiet and keeps the
leading part of its payload, which `payload` has as a fraction of `payloadBits` bits. -/
def encode (layout : BinaryLayout) (payloadBits : Nat) : BinaryNumber → Nat
  | .finite negative significand exponent => layout.encodeFinite negative significand exponent
  | .infinite negative => layout.withSign negative layout.infinity
  | .nan negative payload =>
    let moved := if payloadBits ≤ layout.fractionBits then
        payload <<< (layout.fractionBits - payloadBits)
      else payload >>> (payloadBits - layout.fractionBits)
    let quiet := 2 ^ (layout.fractionBits - 1)
    layout.withSign negative (layout.infinity + (moved ||| quiet))

end BinaryLayout

end GpuScript
