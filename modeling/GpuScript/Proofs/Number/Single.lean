import GpuScript.Proofs.Number.Exactness

namespace GpuScript

namespace Single

def isNegative (value : Single) : Bool := value.bits.toNat / 2 ^ 31 == 1

def exponent (value : Single) : Nat := value.bits.toNat / 2 ^ 23 % 2 ^ 8

def fraction (value : Single) : Nat := value.bits.toNat % 2 ^ 23

def magnitude (value : Single) : Nat := value.bits.toNat % 2 ^ 31

/-- A NaN has the exponent of infinity and a fraction. -/
def IsNaN (value : Single) : Prop := value.exponent = 255 ∧ value.fraction ≠ 0

instance (value : Single) : Decidable value.IsNaN := inferInstanceAs (Decidable (_ ∧ _))

def ofFields (negative : Bool) (exponent fraction : Nat) : Single :=
  ⟨UInt32.ofNat ((if negative then 2 ^ 31 else 0) + exponent * 2 ^ 23 + fraction)⟩

def signedZero (negative : Bool) : Single := ⟨if negative then 0x80000000 else 0⟩

def infinity (negative : Bool) : Single := ⟨if negative then 0xff800000 else 0x7f800000⟩

def clearLow (value : Single) (bits : Nat) : Single :=
  ⟨UInt32.ofNat (value.bits.toNat / 2 ^ bits * 2 ^ bits)⟩

theorem exponent_lt (value : Single) : value.exponent < 256 := Nat.mod_lt _ (by decide)

theorem fraction_lt (value : Single) : value.fraction < 2 ^ 23 := Nat.mod_lt _ (by decide)

theorem magnitude_eq (value : Single) :
    value.magnitude = value.exponent * 2 ^ 23 + value.fraction := by
  unfold magnitude exponent fraction
  omega

private theorem toNat_bits (value : Single) :
    value.bits.toNat = (if value.isNegative then 2 ^ 31 else 0) + value.exponent * 2 ^ 23 +
      value.fraction := by
  have bound := value.bits.toNat_lt
  unfold isNegative exponent fraction
  split <;> rename_i sign <;> simp only [beq_iff_eq] at sign <;> omega

section Fields

variable (negative : Bool) {exponent fraction : Nat} (range : exponent < 256)
  (short : fraction < 2 ^ 23)

include range short

theorem toNat_ofFields :
    (ofFields negative exponent fraction).bits.toNat =
      (if negative then 2 ^ 31 else 0) + exponent * 2 ^ 23 + fraction := by
  refine UInt32.toNat_ofNat_of_lt' ?_
  show _ < 2 ^ 32
  split <;> omega

theorem isNegative_ofFields : (ofFields negative exponent fraction).isNegative = negative := by
  rw [isNegative, toNat_ofFields negative range short, Bool.eq_iff_iff, beq_iff_eq]
  cases negative
  · exact iff_of_false (by simp only [Bool.false_eq_true, ↓reduceIte]; omega) Bool.false_ne_true
  · exact iff_of_true (by simp only [↓reduceIte]; omega) rfl

theorem exponent_ofFields : (ofFields negative exponent fraction).exponent = exponent := by
  rw [Single.exponent, toNat_ofFields negative range short]
  split <;> omega

theorem fraction_ofFields : (ofFields negative exponent fraction).fraction = fraction := by
  rw [Single.fraction, toNat_ofFields negative range short]
  split <;> omega

end Fields

theorem signedZero_eq (negative : Bool) : signedZero negative = ofFields negative 0 0 := by
  cases negative <;> rfl

theorem infinity_eq (negative : Bool) : infinity negative = ofFields negative 255 0 := by
  cases negative <;> rfl

theorem decode_ofFields (negative : Bool) {exponent fraction : Nat} (range : exponent < 256)
    (short : fraction < 2 ^ 23) :
    (ofFields negative exponent fraction).decode =
      if exponent = 255 then
        if fraction = 0 then .infinite negative else .nan negative fraction
      else if exponent = 0 then .finite negative fraction (-149)
      else .finite negative (2 ^ 23 + fraction) (-149 + exponent - 1) := by
  have bits : (ofFields negative exponent fraction).bits.toNat =
      BinaryLayout.single.withSign negative (exponent * 2 ^ 23 + fraction) := by
    rw [toNat_ofFields negative range short]
    cases negative
    · exact (Nat.add_assoc _ _ _).trans (Nat.zero_add _)
    · exact Nat.add_assoc _ _ _
  rw [decode, bits]
  exact BinaryLayout.decode_withSign _ negative range short

theorem clearLow_eq (value : Single) {bits : Nat} (low : bits ≤ 23) :
    value.clearLow bits =
      ofFields value.isNegative value.exponent (value.fraction / 2 ^ bits * 2 ^ bits) := by
  have high : 2 ^ 23 = 2 ^ (23 - bits) * 2 ^ bits := by rw [← Nat.pow_add, Nat.sub_add_cancel low]
  have sign : ∃ rest, (if value.isNegative then 2 ^ 31 else 0) + value.exponent * 2 ^ 23 =
      rest * 2 ^ 23 := by
    refine ⟨(if value.isNegative then 2 ^ 8 else 0) + value.exponent, ?_⟩
    split <;> omega
  obtain ⟨rest, front⟩ := sign
  have divided : (rest * 2 ^ (23 - bits) * 2 ^ bits + value.fraction) / 2 ^ bits =
      rest * 2 ^ (23 - bits) + value.fraction / 2 ^ bits := by
    rw [Nat.add_comm, Nat.add_mul_div_right _ _ (Nat.two_pow_pos bits), Nat.add_comm]
  rw [clearLow, ofFields, toNat_bits, front, high, ← Nat.mul_assoc, divided, Nat.add_mul]

end Single

theorem Single.ofNat_withSign (negative : Bool) (magnitude : Nat) :
    (⟨UInt32.ofNat (BinaryLayout.single.withSign negative magnitude)⟩ : Single) =
      .ofFields negative (magnitude / 2 ^ 23) (magnitude % 2 ^ 23) := by
  have code : BinaryLayout.single.withSign negative magnitude =
      (if negative then 2 ^ 31 else 0) + magnitude / 2 ^ 23 * 2 ^ 23 + magnitude % 2 ^ 23 := by
    rw [Nat.add_assoc, Nat.div_add_mod']
    cases negative
    · exact (Nat.zero_add _).symm
    · rfl
  rw [code, ofFields]

/-- A NaN that comes from a double is quiet. -/
theorem Double.quiet_of_isNaN_toSingle {number : Double} (nan : number.toSingle.IsNaN) :
    2 ^ 22 ≤ number.toSingle.fraction := by
  unfold toSingle at nan ⊢
  cases decoded : number.decode with
  | finite negative significand exponent =>
    rw [decoded] at nan
    obtain ⟨magnitude, bound, encoded⟩ : ∃ magnitude ≤ BinaryLayout.single.infinity,
        BinaryLayout.single.encode BinaryLayout.double.fractionBits
          (.finite negative significand exponent) =
        BinaryLayout.single.withSign negative magnitude :=
      ⟨_, BinaryLayout.roundMagnitude_le _ _ _, rfl⟩
    change magnitude ≤ 255 * 2 ^ 23 at bound
    rw [encoded, Single.ofNat_withSign] at nan
    obtain ⟨top, present⟩ := nan
    rw [Single.exponent_ofFields _ (by omega) (by omega)] at top
    rw [Single.fraction_ofFields _ (by omega) (by omega)] at present
    omega
  | infinite negative =>
    rw [decoded] at nan
    cases negative <;> exact absurd nan (by decide)
  | nan negative payload =>
    obtain ⟨fraction, quiet, range, encoded⟩ := BinaryLayout.single.encode_nan negative
      (BinaryLayout.payload_of_decode decoded) (by decide)
    change 2 ^ 22 ≤ fraction at quiet
    change fraction < 2 ^ 23 at range
    have low : (255 * 2 ^ 23 + fraction) % 2 ^ 23 = fraction := by omega
    have code : BinaryLayout.single.encode BinaryLayout.double.fractionBits
        (.nan negative payload) = BinaryLayout.single.withSign negative
          (255 * 2 ^ 23 + fraction) := encoded
    rw [code, Single.ofNat_withSign, Single.fraction_ofFields _ (by omega) (by omega), low]
    exact quiet

end GpuScript
