import GpuScript.Fault
import GpuScript.Number.Float

/-! The small floats of 16, 11 and 10 bits. All have a five-bit exponent with bias 15; only the
16-bit one has a sign. Encoding cuts the fraction, flushes an exponent that is too small to zero and
lets one that is too large become infinity. -/
namespace GpuScript

/-- A small float layout: its fraction bits, and whether a sign bit stands above the exponent. -/
structure SmallFloat where
  fractionBits : Nat
  signed : Bool
  deriving DecidableEq

namespace SmallFloat

/-- The layout of a width. -/
def ofWidth? : Nat → Option SmallFloat
  | 16 => some ⟨10, true⟩
  | 11 => some ⟨6, false⟩
  | 10 => some ⟨5, false⟩
  | _ => none

/-- Difference between the exponent biases of a single and of a small float. -/
def biasGap : Nat := 112

/-- The exponent field of infinities and NaNs. -/
def exponentLimit : Nat := 31

/-- The pattern of a single in this layout. -/
def encode (layout : SmallFloat) (value : Single) : Nat :=
  let code := value.bits.toNat
  let negative := code / 2 ^ 31 == 1
  let exponent := code / 2 ^ 23 % 2 ^ 8
  let fraction := code % 2 ^ 23 / 2 ^ (23 - layout.fractionBits)
  if negative && !layout.signed then 0
  else
    let magnitude :=
      if exponent = 255 then exponentLimit * 2 ^ layout.fractionBits + fraction
      else if exponent ≤ biasGap then 0
      else if exponentLimit ≤ exponent - biasGap then exponentLimit * 2 ^ layout.fractionBits
      else (exponent - biasGap) * 2 ^ layout.fractionBits + fraction
    if negative then 2 ^ (5 + layout.fractionBits) + magnitude else magnitude

/-- The single that a pattern stands for. A pattern with exponent zero and a fraction is read with
the least exponent of the layout and a leading one. -/
def decode (layout : SmallFloat) (code : Nat) : Single :=
  let negative := layout.signed && code / 2 ^ (5 + layout.fractionBits) % 2 == 1
  let exponent := code / 2 ^ layout.fractionBits % 2 ^ 5
  let fraction := code % 2 ^ layout.fractionBits * 2 ^ (23 - layout.fractionBits)
  let wide :=
    if exponent = 0 ∧ fraction = 0 then 0
    else if exponent = exponentLimit then 255
    else exponent + biasGap
  ⟨UInt32.ofNat ((if negative then 2 ^ 31 else 0) + wide * 2 ^ 23 + fraction)⟩

/-- The layout of a width, or the fault that there is none. -/
def ofWidth (width : Nat) : Except Fault SmallFloat :=
  match ofWidth? width with
  | some layout => .ok layout
  | none => .error (.codec (.smallFloatWidth width))

end SmallFloat

end GpuScript
