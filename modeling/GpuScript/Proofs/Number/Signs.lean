import GpuScript.Proofs.Number.Single

namespace GpuScript

namespace BinaryNumber

/-- The sign bit, which zeros and NaNs have too. -/
def isNegative : BinaryNumber → Bool
  | .finite negative _ _ | .infinite negative | .nan negative _ => negative

def IsPositive : BinaryNumber → Prop
  | .finite negative significand _ => negative = false ∧ significand ≠ 0
  | .infinite negative => negative = false
  | .nan _ _ => False

instance : (number : BinaryNumber) → Decidable number.IsPositive
  | .finite _ _ _ => inferInstanceAs (Decidable (_ ∧ _))
  | .infinite negative => inferInstanceAs (Decidable (negative = false))
  | .nan _ _ => inferInstanceAs (Decidable False)

end BinaryNumber

namespace BinaryLayout

variable (layout : BinaryLayout)

theorem field_lt {magnitude : Nat} (range : magnitude < layout.signWeight) :
    magnitude / 2 ^ layout.fractionBits < 2 ^ layout.exponentBits := by
  refine Nat.div_lt_of_lt_mul ?_
  rwa [← Nat.pow_add]

theorem fraction_lt (magnitude : Nat) :
    magnitude % 2 ^ layout.fractionBits < 2 ^ layout.fractionBits :=
  Nat.mod_lt _ (Nat.two_pow_pos _)

/-- The sign of a pattern is the one that was put on its magnitude. -/
theorem isNegative_decode (negative : Bool) {magnitude : Nat}
    (range : magnitude < layout.signWeight) :
    (layout.decode (layout.withSign negative magnitude)).isNegative = negative := by
  have read := decode_withSign layout negative (layout.field_lt range)
    (layout.fraction_lt magnitude)
  rw [Nat.div_add_mod'] at read
  rw [read]
  split
  · split <;> rfl
  · split <;> rfl

theorem isPositive_decode_iff (wide : layout.exponentLimit ≠ 0) (negative : Bool) {magnitude : Nat}
    (range : magnitude ≤ layout.infinity) :
    (layout.decode (layout.withSign negative magnitude)).IsPositive ↔
      negative = false ∧ magnitude ≠ 0 := by
  have below := Nat.lt_of_le_of_lt range layout.infinity_lt
  have read := decode_withSign layout negative (layout.field_lt below)
    (layout.fraction_lt magnitude)
  have whole := Nat.div_add_mod' magnitude (2 ^ layout.fractionBits)
  have unit := Nat.two_pow_pos layout.fractionBits
  rw [whole] at read
  rw [read]
  split
  · rename_i top
    rw [top] at whole
    change layout.infinity + _ = _ at whole
    have none : magnitude % 2 ^ layout.fractionBits = 0 := by omega
    have some : magnitude ≠ 0 := by
      rintro rfl
      exact wide (top.symm.trans (Nat.zero_div _))
    simp [BinaryNumber.IsPositive, none, some]
  · split
    · rename_i low
      rw [low] at whole
      have same : magnitude % 2 ^ layout.fractionBits = magnitude := by omega
      simp [BinaryNumber.IsPositive, same]
    · rename_i high
      have some : magnitude ≠ 0 := by
        rintro rfl
        exact high (Nat.zero_div _)
      simp [BinaryNumber.IsPositive, some]

/-- An integer has its last place in a double far above that of the least numbers. -/
theorem roundMagnitude_ne_zero {number : Nat} (nonzero : number ≠ 0) :
    double.roundMagnitude number 1 ≠ 0 := by
  have place : double.lastPlace number 1 = number.log2 - 52 := by
    have leading := double.lastPlace_two_pow nonzero 0
    change double.lastPlace number 1 = max ((number.log2 : Int) - 0 - 52) (-1074) at leading
    omega
  have steps : 1022 ≤ (double.lastPlace number 1 - double.leastExponent).toNat := by
    change 1022 ≤ (double.lastPlace number 1 - -1074).toNat
    omega
  have field : 1022 * 2 ^ 52 ≤
      (double.lastPlace number 1 - double.leastExponent).toNat * 2 ^ double.fractionBits :=
    Nat.mul_le_mul_right _ steps
  have finite : 1022 * 2 ^ 52 ≤ double.infinity := by decide
  unfold roundMagnitude
  dsimp only
  rw [if_neg nonzero]
  omega

end BinaryLayout

namespace Double

theorem decode_ofRatio (negative : Bool) (numerator denominator : Nat) :
    (ofRatio negative numerator denominator).decode =
      BinaryLayout.double.decode (BinaryLayout.double.withSign negative
        (BinaryLayout.double.roundMagnitude numerator denominator)) := by
  have bound := BinaryLayout.double.roundMagnitude_le numerator denominator
  exact decode_ofNat (BinaryLayout.double.withSign_lt negative
    (Nat.lt_of_le_of_lt bound BinaryLayout.double.infinity_lt))

theorem isNegative_ofInt (value : Int) : (ofInt value).decode.isNegative = decide (value < 0) := by
  have bound := BinaryLayout.double.roundMagnitude_le value.natAbs 1
  rw [ofInt, decode_ofRatio]
  exact BinaryLayout.double.isNegative_decode _
    (Nat.lt_of_le_of_lt bound BinaryLayout.double.infinity_lt)

theorem isPositive_ofInt_iff (value : Int) : (ofInt value).decode.IsPositive ↔ 0 < value := by
  rw [ofInt, decode_ofRatio, BinaryLayout.double.isPositive_decode_iff (by decide) _
    (BinaryLayout.double.roundMagnitude_le _ _)]
  by_cases zero : value.natAbs = 0
  · rw [zero]
    have none : BinaryLayout.double.roundMagnitude 0 1 = 0 := rfl
    simp only [none, ne_eq, not_true_eq_false, and_false, false_iff]
    omega
  · simp only [ne_eq, BinaryLayout.roundMagnitude_ne_zero zero, not_false_eq_true, and_true,
      decide_eq_false_iff_not]
    omega

theorem isNegative_toSingle (value : Double) :
    value.toSingle.isNegative = value.decode.isNegative := by
  have signed (negative : Bool) {magnitude : Nat} (range : magnitude < 2 ^ 31) :
      (⟨UInt32.ofNat (BinaryLayout.single.withSign negative magnitude)⟩ : Single).isNegative =
        negative := by
    rw [Single.ofNat_withSign]
    exact Single.isNegative_ofFields negative (by omega) (by omega)
  unfold toSingle
  cases decoded : value.decode with
  | finite negative significand exponent =>
    have bound := BinaryLayout.single.roundMagnitude_le
      (BinaryLayout.scaleRatio significand 1 (-exponent)).1
      (BinaryLayout.scaleRatio significand 1 (-exponent)).2
    exact signed negative (Nat.lt_of_le_of_lt bound BinaryLayout.single.infinity_lt)
  | infinite negative => exact signed negative BinaryLayout.single.infinity_lt
  | nan negative payload =>
    obtain ⟨fraction, -, range, encoded⟩ := BinaryLayout.single.encode_nan negative
      (BinaryLayout.payload_of_decode decoded) (by decide)
    rw [encoded]
    change fraction < 2 ^ 23 at range
    refine signed negative ?_
    change 255 * 2 ^ 23 + fraction < 2 ^ 31
    omega

end Double

end GpuScript
