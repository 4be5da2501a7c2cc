import GpuScript.Number.Float
import Mathlib.Algebra.Order.Field.Basic
import Mathlib.Data.Rat.Cast.Defs
import Mathlib.Tactic.FieldSimp

/-! Conversions that lose nothing. A significand that fits into the fraction of a layout is shifted to
its full width while the exponent goes down by as much, and nothing is rounded. So the double of a
single, or of an integer that is not too large, stands for the same number. -/
namespace GpuScript

/-- Two patterns stand for the same number: zeros differ by their signs, and all NaNs are alike. -/
def BinaryNumber.Same : BinaryNumber → BinaryNumber → Prop
  | .finite negative significand exponent, .finite negative' significand' exponent' =>
    negative = negative' ∧ (significand : ℚ) * 2 ^ exponent = significand' * 2 ^ exponent'
  | .infinite negative, .infinite negative' => negative = negative'
  | .nan .., .nan .. => True
  | _, _ => False

namespace BinaryNumber

theorem Same.refl (number : BinaryNumber) : number.Same number := by
  cases number with
  | finite negative significand exponent => exact ⟨rfl, rfl⟩
  | infinite negative => rfl
  | nan negative payload => trivial

theorem Same.symm {left right : BinaryNumber} (same : left.Same right) : right.Same left := by
  cases left <;> cases right <;> simp only [Same] at same ⊢
  · exact ⟨same.1.symm, same.2.symm⟩
  · exact same.symm

theorem Same.trans {left middle right : BinaryNumber} (first : left.Same middle)
    (second : middle.Same right) : left.Same right := by
  cases left <;> cases middle <;> cases right <;> simp only [Same] at first second ⊢
  · exact ⟨first.1.trans second.1, first.2.trans second.2⟩
  · exact first.trans second

end BinaryNumber

private theorem shifted_value (significand shift : Nat) (exponent : Int) :
    ((significand * 2 ^ shift : Nat) : ℚ) * 2 ^ (exponent - shift) = significand * 2 ^ exponent := by
  rw [zpow_sub₀ two_ne_zero, zpow_natCast, Nat.cast_mul, Nat.cast_pow, Nat.cast_ofNat]
  field_simp

private theorem log2_mul_two_pow {number : Nat} (nonzero : number ≠ 0) (shift : Nat) :
    (number * 2 ^ shift).log2 = number.log2 + shift := by
  have shifted : number * 2 ^ shift ≠ 0 := Nat.mul_ne_zero nonzero (Nat.two_pow_pos _).ne'
  rw [Nat.log2_eq_iff shifted]
  constructor
  · rw [Nat.pow_add]
    exact Nat.mul_le_mul_right _ (Nat.log2_self_le nonzero)
  · rw [Nat.add_right_comm, Nat.pow_add]
    exact Nat.mul_lt_mul_of_pos_right Nat.lt_log2_self (Nat.two_pow_pos _)

namespace BinaryLayout

theorem roundQuotient_mul (quotient : Nat) {denominator : Nat} (positive : 0 < denominator) :
    roundQuotient (quotient * denominator) denominator = quotient := by
  unfold roundQuotient
  dsimp only
  rw [Nat.mul_div_cancel _ positive, Nat.mul_mod_left]
  exact if_neg (by omega)

theorem scaleRatio_one (significand : Nat) (exponent : Int) :
    scaleRatio significand 1 (-exponent) =
      (significand * 2 ^ exponent.toNat, 2 ^ (-exponent).toNat) := by
  unfold scaleRatio
  split
  · rename_i small
    have none : exponent.toNat = 0 := by omega
    rw [none, Nat.pow_zero, Nat.mul_one, Nat.one_mul]
  · rename_i large
    have none : (-exponent).toNat = 0 := by omega
    rw [none, Int.neg_neg]
    rfl

theorem decode_withSign (layout : BinaryLayout) (negative : Bool) {field fraction : Nat}
    (range : field < 2 ^ layout.exponentBits) (short : fraction < 2 ^ layout.fractionBits) :
    layout.decode (layout.withSign negative (field * 2 ^ layout.fractionBits + fraction)) =
      if field = layout.exponentLimit then
        if fraction = 0 then .infinite negative else .nan negative fraction
      else if field = 0 then .finite negative fraction layout.leastExponent
      else .finite negative (2 ^ layout.fractionBits + fraction)
        (layout.leastExponent + field - 1) := by
  have code : layout.withSign negative (field * 2 ^ layout.fractionBits + fraction) =
      ((if negative then 2 ^ layout.exponentBits else 0) + field) * 2 ^ layout.fractionBits +
        fraction := by
    unfold withSign signWeight
    split
    · rw [Nat.add_comm layout.fractionBits, Nat.pow_add, Nat.add_mul, Nat.add_assoc]
    · rw [Nat.zero_add]
  have quotient : layout.withSign negative (field * 2 ^ layout.fractionBits + fraction) /
      2 ^ layout.fractionBits = (if negative then 2 ^ layout.exponentBits else 0) + field := by
    rw [code, Nat.mul_comm, Nat.mul_add_div (Nat.two_pow_pos _), Nat.div_eq_of_lt short,
      Nat.add_zero]
  have low : layout.withSign negative (field * 2 ^ layout.fractionBits + fraction) %
      2 ^ layout.fractionBits = fraction := by
    rw [code, Nat.mul_add_mod', Nat.mod_eq_of_lt short]
  have middle : ((if negative then 2 ^ layout.exponentBits else 0) + field) %
      2 ^ layout.exponentBits = field := by
    split
    · rw [Nat.add_mod_left, Nat.mod_eq_of_lt range]
    · rw [Nat.zero_add, Nat.mod_eq_of_lt range]
  have sign : (layout.withSign negative (field * 2 ^ layout.fractionBits + fraction) /
      layout.signWeight % 2 == 1) = negative := by
    rw [signWeight, Nat.pow_add, ← Nat.div_div_eq_div_mul, quotient]
    cases negative
    · rw [if_neg Bool.false_ne_true, Nat.zero_add, Nat.div_eq_of_lt range]
      rfl
    · rw [if_pos rfl, Nat.add_div_left _ (Nat.two_pow_pos _), Nat.div_eq_of_lt range]
      rfl
  unfold decode
  simp only [sign, quotient, low, middle]

theorem roundMagnitude_le (layout : BinaryLayout) (numerator denominator : Nat) :
    layout.roundMagnitude numerator denominator ≤ layout.infinity := by
  unfold roundMagnitude
  split
  · exact Nat.zero_le _
  · exact Nat.min_le_right _ _

section Layout

variable (layout : BinaryLayout)

theorem lastPlace_two_pow {numerator : Nat} (nonzero : numerator ≠ 0) (shift : Nat) :
    layout.lastPlace numerator (2 ^ shift) =
      max ((numerator.log2 : Int) - shift - layout.fractionBits) layout.leastExponent := by
  have leading : (scaleRatio numerator (2 ^ shift) ((numerator.log2 : Int) - shift)).2 ≤
      (scaleRatio numerator (2 ^ shift) ((numerator.log2 : Int) - shift)).1 := by
    unfold scaleRatio
    split
    · rename_i large
      have total : shift + ((numerator.log2 : Int) - shift).toNat = numerator.log2 := by omega
      dsimp only
      rw [← Nat.pow_add, total]
      exact Nat.log2_self_le nonzero
    · rename_i small
      have total : shift = numerator.log2 + (-((numerator.log2 : Int) - shift)).toNat := by omega
      dsimp only
      generalize (-((numerator.log2 : Int) - shift)).toNat = rest at total
      rw [total, Nat.pow_add]
      exact Nat.mul_le_mul_right _ (Nat.log2_self_le nonzero)
  unfold lastPlace
  dsimp only
  rw [Nat.log2_two_pow, if_pos leading]

section Fitting

variable {significand : Nat} {exponent : Int} (nonzero : significand ≠ 0)
  (fits : significand.log2 ≤ layout.fractionBits)
  (low : layout.leastExponent ≤ significand.log2 + exponent - layout.fractionBits)

include nonzero low in
private theorem lastPlace_fitting :
    layout.lastPlace (significand * 2 ^ exponent.toNat) (2 ^ (-exponent).toNat) =
      significand.log2 + exponent - layout.fractionBits := by
  have shifted : significand * 2 ^ exponent.toNat ≠ 0 :=
    Nat.mul_ne_zero nonzero (Nat.two_pow_pos _).ne'
  rw [lastPlace_two_pow _ shifted, log2_mul_two_pow nonzero]
  omega

include fits in
/-- A significand that fits is shifted to the full width. -/
theorem roundQuotient_fitting :
    let place := significand.log2 + exponent - layout.fractionBits
    let scaled := scaleRatio (significand * 2 ^ exponent.toNat) (2 ^ (-exponent).toNat) place
    roundQuotient scaled.1 scaled.2 =
      significand * 2 ^ (layout.fractionBits - significand.log2) := by
  intro place scaled
  have whole : scaled.1 =
      significand * 2 ^ (layout.fractionBits - significand.log2) * scaled.2 := by
    unfold scaled scaleRatio
    split
    · rename_i positive
      have total : exponent.toNat =
          layout.fractionBits - significand.log2 + ((-exponent).toNat + place.toNat) := by omega
      dsimp only
      rw [total, Nat.pow_add, Nat.pow_add, Nat.mul_assoc]
    · rename_i negative
      have total : exponent.toNat + (-place).toNat =
          layout.fractionBits - significand.log2 + (-exponent).toNat := by omega
      dsimp only
      rw [Nat.mul_assoc, Nat.mul_assoc, ← Nat.pow_add, ← Nat.pow_add, total]
  have positive : 0 < scaled.2 := by
    unfold scaled scaleRatio
    split
    · exact Nat.mul_pos (Nat.two_pow_pos _) (Nat.two_pow_pos _)
    · exact Nat.two_pow_pos _
  rw [whole, roundQuotient_mul _ positive]

include nonzero fits low

private theorem roundMagnitude_fitting :
    layout.roundMagnitude (significand * 2 ^ exponent.toNat) (2 ^ (-exponent).toNat) =
      min ((significand.log2 + exponent - layout.fractionBits - layout.leastExponent).toNat *
          2 ^ layout.fractionBits + significand * 2 ^ (layout.fractionBits - significand.log2))
        layout.infinity := by
  have shifted : significand * 2 ^ exponent.toNat ≠ 0 :=
    Nat.mul_ne_zero nonzero (Nat.two_pow_pos _).ne'
  unfold roundMagnitude
  dsimp only
  rw [if_neg shifted, lastPlace_fitting layout nonzero low,
    roundQuotient_fitting layout fits]

/-- A number that fits is encoded as it is, in full width. -/
theorem decode_encodeFinite (negative : Bool)
    (high : significand.log2 + exponent - layout.fractionBits - layout.leastExponent + 1 <
      layout.exponentLimit) :
    layout.decode (layout.encodeFinite negative significand exponent) =
      .finite negative (significand * 2 ^ (layout.fractionBits - significand.log2))
        (significand.log2 + exponent - layout.fractionBits) := by
  have lower : 2 ^ layout.fractionBits ≤
      significand * 2 ^ (layout.fractionBits - significand.log2) := by
    have whole : 2 ^ layout.fractionBits =
        2 ^ significand.log2 * 2 ^ (layout.fractionBits - significand.log2) := by
      rw [← Nat.pow_add, Nat.add_sub_cancel' fits]
    rw [whole]
    exact Nat.mul_le_mul_right _ (Nat.log2_self_le nonzero)
  have upper : significand * 2 ^ (layout.fractionBits - significand.log2) <
      2 * 2 ^ layout.fractionBits := by
    have whole : 2 * 2 ^ layout.fractionBits =
        2 ^ (significand.log2 + 1) * 2 ^ (layout.fractionBits - significand.log2) := by
      rw [← Nat.pow_add, Nat.add_right_comm, Nat.add_sub_cancel' fits, Nat.pow_succ']
    rw [whole]
    exact Nat.mul_lt_mul_of_pos_right Nat.lt_log2_self (Nat.two_pow_pos _)
  have encoded : layout.encodeFinite negative significand exponent = layout.withSign negative
      (layout.roundMagnitude (significand * 2 ^ exponent.toNat) (2 ^ (-exponent).toNat)) := by
    unfold encodeFinite
    rw [scaleRatio_one]
  rw [encoded, roundMagnitude_fitting layout nonzero fits low]
  generalize significand * 2 ^ (layout.fractionBits - significand.log2) = full at lower upper ⊢
  generalize steps : (significand.log2 + exponent - layout.fractionBits -
    layout.leastExponent).toNat = field
  have finite : field + 2 ≤ layout.exponentLimit := by omega
  have range : field + 1 < 2 ^ layout.exponentBits := by
    unfold exponentLimit at finite
    omega
  -- The leading bit of the full significand is the last one of the exponent field.
  have carried : field * 2 ^ layout.fractionBits + full =
      (field + 1) * 2 ^ layout.fractionBits + (full - 2 ^ layout.fractionBits) := by
    rw [Nat.add_mul, Nat.one_mul]
    omega
  have below : field * 2 ^ layout.fractionBits + full ≤ layout.infinity := by
    have room : (field + 2) * 2 ^ layout.fractionBits ≤ layout.infinity :=
      Nat.mul_le_mul_right _ finite
    rw [Nat.add_mul] at room
    omega
  rw [Nat.min_eq_left below, carried, decode_withSign layout negative range (by omega),
    if_neg (by omega), if_neg (Nat.succ_ne_zero _)]
  congr 1 <;> omega

end Fitting

end Layout

private theorem bounds_of_decode {layout : BinaryLayout} {code significand : Nat} {negative : Bool}
    {exponent : Int} (decoded : layout.decode code = .finite negative significand exponent) :
    significand < 2 * 2 ^ layout.fractionBits ∧ layout.leastExponent ≤ exponent ∧
      exponent < layout.leastExponent + layout.exponentLimit := by
  have fraction : code % 2 ^ layout.fractionBits < 2 ^ layout.fractionBits :=
    Nat.mod_lt _ (Nat.two_pow_pos _)
  have field : code / 2 ^ layout.fractionBits % 2 ^ layout.exponentBits <
      2 ^ layout.exponentBits := Nat.mod_lt _ (Nat.two_pow_pos _)
  have limit : layout.exponentLimit + 1 = 2 ^ layout.exponentBits :=
    Nat.sub_add_cancel (Nat.two_pow_pos _)
  unfold decode at decoded
  dsimp only at decoded
  split at decoded
  · split at decoded <;> cases decoded
  · split at decoded <;> cases decoded <;> omega

theorem payload_of_decode {layout : BinaryLayout} {code payload : Nat} {negative : Bool}
    (decoded : layout.decode code = .nan negative payload) : payload < 2 ^ layout.fractionBits := by
  unfold decode at decoded
  dsimp only at decoded
  split at decoded
  · split at decoded <;> cases decoded
    exact Nat.mod_lt _ (Nat.two_pow_pos _)
  · split at decoded <;> cases decoded

theorem infinity_lt (layout : BinaryLayout) : layout.infinity < layout.signWeight := by
  have limit : layout.exponentLimit < 2 ^ layout.exponentBits :=
    Nat.sub_lt (Nat.two_pow_pos _) Nat.one_pos
  rw [infinity, signWeight, Nat.add_comm, Nat.pow_add]
  exact Nat.mul_lt_mul_of_pos_right limit (Nat.two_pow_pos _)

theorem withSign_lt (layout : BinaryLayout) (negative : Bool) {magnitude : Nat}
    (range : magnitude < layout.signWeight) :
    layout.withSign negative magnitude < 2 * layout.signWeight := by
  unfold withSign
  split <;> omega

private theorem encodeFinite_lt (layout : BinaryLayout) (negative : Bool) (significand : Nat)
    (exponent : Int) : layout.encodeFinite negative significand exponent < 2 * layout.signWeight :=
  layout.withSign_lt negative
    (Nat.lt_of_le_of_lt (layout.roundMagnitude_le _ _) layout.infinity_lt)

theorem encodeFinite_zero (layout : BinaryLayout) (negative : Bool) (exponent : Int) :
    layout.encodeFinite negative 0 exponent = layout.withSign negative 0 := by
  unfold encodeFinite
  dsimp only
  rw [scaleRatio_one, roundMagnitude, if_pos (Nat.zero_mul _)]

theorem encode_nan (layout : BinaryLayout) {payloadBits payload : Nat} (negative : Bool)
    (short : payload < 2 ^ payloadBits) (wide : 1 ≤ layout.fractionBits) :
    ∃ fraction, 2 ^ (layout.fractionBits - 1) ≤ fraction ∧ fraction < 2 ^ layout.fractionBits ∧
      layout.encode payloadBits (.nan negative payload) =
        layout.withSign negative (layout.exponentLimit * 2 ^ layout.fractionBits + fraction) := by
  have quiet : 2 ^ (layout.fractionBits - 1) < 2 ^ layout.fractionBits :=
    Nat.pow_lt_pow_right (by decide) (by omega)
  refine ⟨_, Nat.right_le_or, Nat.or_lt_two_pow ?_ quiet, rfl⟩
  split
  · rename_i longer
    rw [Nat.shiftLeft_eq]
    calc payload * 2 ^ (layout.fractionBits - payloadBits)
        < 2 ^ payloadBits * 2 ^ (layout.fractionBits - payloadBits) :=
          Nat.mul_lt_mul_of_pos_right short (Nat.two_pow_pos _)
      _ = 2 ^ layout.fractionBits := by rw [← Nat.pow_add, Nat.add_sub_cancel' longer]
  · rename_i shorter
    rw [Nat.shiftRight_eq_div_pow]
    refine Nat.div_lt_of_lt_mul ?_
    rwa [← Nat.pow_add, Nat.sub_add_cancel (by omega)]

private theorem decode_quiet (layout : BinaryLayout) (negative : Bool) {fraction : Nat}
    (quiet : 2 ^ (layout.fractionBits - 1) ≤ fraction) (range : fraction < 2 ^ layout.fractionBits) :
    layout.decode (layout.withSign negative
      (layout.exponentLimit * 2 ^ layout.fractionBits + fraction)) = .nan negative fraction := by
  have limit : layout.exponentLimit < 2 ^ layout.exponentBits :=
    Nat.sub_lt (Nat.two_pow_pos _) Nat.one_pos
  have present : fraction ≠ 0 := by
    have positive := Nat.two_pow_pos (layout.fractionBits - 1)
    omega
  rw [decode_withSign layout negative limit range, if_pos rfl, if_neg present]

end BinaryLayout

namespace Double

theorem decode_ofNat {code : Nat} (range : code < 2 * BinaryLayout.double.signWeight) :
    (⟨UInt64.ofNat code⟩ : Double).decode = BinaryLayout.double.decode code := by
  rw [decode, UInt64.toNat_ofNat_of_lt' range]

/-- A number of at most 53 bits far from the ends of the exponents is a double. -/
theorem same_encodeFinite (negative : Bool) {significand : Nat} {exponent : Int}
    (short : significand < 2 ^ 53) (low : -1022 ≤ exponent) (high : exponent ≤ 970) :
    (⟨UInt64.ofNat (BinaryLayout.double.encodeFinite negative significand exponent)⟩ :
      Double).decode.Same (.finite negative significand exponent) := by
  rw [decode_ofNat (BinaryLayout.double.encodeFinite_lt negative significand exponent)]
  by_cases zero : significand = 0
  · have least : BinaryLayout.double.decode (BinaryLayout.double.withSign negative 0) =
        .finite negative 0 BinaryLayout.double.leastExponent := by
      cases negative <;> rfl
    rw [zero, BinaryLayout.encodeFinite_zero, least]
    exact ⟨rfl, by rw [Nat.cast_zero, zero_mul, zero_mul]⟩
  · have width : significand.log2 < 53 := (Nat.log2_lt zero).mpr short
    have bits : BinaryLayout.double.fractionBits = 52 := rfl
    have least : BinaryLayout.double.leastExponent = -1074 := by decide
    have limit : BinaryLayout.double.exponentLimit = 2047 := by decide
    have place : (significand.log2 : Int) + exponent - BinaryLayout.double.fractionBits =
        exponent - (BinaryLayout.double.fractionBits - significand.log2 : Nat) := by omega
    rw [BinaryLayout.decode_encodeFinite _ zero (by omega) (by omega) negative (by omega), place]
    exact ⟨rfl, shifted_value significand _ exponent⟩

/-- A double stands for the same number as the single it comes from. -/
theorem same_ofSingle (value : Single) : (ofSingle value).decode.Same value.decode := by
  unfold ofSingle
  cases decoded : value.decode with
  | finite negative significand exponent =>
    obtain ⟨short, least, most⟩ := BinaryLayout.bounds_of_decode decoded
    change significand < 2 * 2 ^ 23 at short
    have lowest : BinaryLayout.single.leastExponent = -149 := by decide
    have limit : BinaryLayout.single.exponentLimit = 255 := by decide
    exact same_encodeFinite negative (by omega) (by omega) (by omega)
  | infinite negative => cases negative <;> rfl
  | nan negative payload =>
    obtain ⟨fraction, quiet, range, encoded⟩ := BinaryLayout.double.encode_nan negative
      (BinaryLayout.payload_of_decode decoded) (by decide)
    have bound : BinaryLayout.double.exponentLimit * 2 ^ BinaryLayout.double.fractionBits +
        fraction < BinaryLayout.double.signWeight := by
      change fraction < 2 ^ 52 at range
      change 2047 * 2 ^ 52 + fraction < 2 ^ 63
      omega
    rw [encoded, decode_ofNat (BinaryLayout.double.withSign_lt negative bound),
      BinaryLayout.decode_quiet _ negative quiet range]
    trivial

theorem same_ofInt {value : Int} (short : value.natAbs < 2 ^ 53) :
    (ofInt value).decode.Same (.finite (value < 0) value.natAbs 0) := by
  have unscaled : BinaryLayout.scaleRatio value.natAbs 1 (-0) = (value.natAbs, 1) := rfl
  have encoded : BinaryLayout.double.encodeFinite (value < 0) value.natAbs 0 =
      BinaryLayout.double.withSign (value < 0)
        (BinaryLayout.double.roundMagnitude value.natAbs 1) := by
    unfold BinaryLayout.encodeFinite
    rw [unscaled]
  rw [ofInt, ofRatio, ← encoded]
  exact same_encodeFinite (value < 0) short (by decide) (by decide)

end Double

end GpuScript
