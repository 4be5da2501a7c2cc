import GpuScript.Bits.SmallFloat
import GpuScript.Proofs.Number.Single

/-! Small floats by their fields. Encoding a single keeps its sign where the layout has one, moves
its exponent into five bits and cuts its fraction; decoding puts the fields back. So a decoded code
is the single without the bits that were cut, and a code that has been decoded is encoded as
before. -/
namespace GpuScript

namespace SmallFloat

def pack (layout : SmallFloat) (negative : Bool) (exponent fraction : Nat) : Nat :=
  ((if negative then 32 else 0) + exponent) * 2 ^ layout.fractionBits + fraction

def exponentField (layout : SmallFloat) (code : Nat) : Nat := code / 2 ^ layout.fractionBits % 2 ^ 5

def fractionField (layout : SmallFloat) (code : Nat) : Nat := code % 2 ^ layout.fractionBits

/-- The code of a NaN: the exponent of infinity with a fraction. -/
def IsNaN (layout : SmallFloat) (code : Nat) : Prop :=
  layout.exponentField code = 31 ∧ layout.fractionField code ≠ 0

instance (layout : SmallFloat) (code : Nat) : Decidable (layout.IsNaN code) :=
  inferInstanceAs (Decidable (_ ∧ _))

/-- The layout has a place for the sign of a single. -/
def KeepsSign (layout : SmallFloat) (value : Single) : Prop :=
  value.isNegative = true → layout.signed = true

instance (layout : SmallFloat) (value : Single) : Decidable (layout.KeepsSign value) :=
  inferInstanceAs (Decidable (_ → _))

/-- The exponent of a single in five bits: too small ones become zero, too large ones and that of
infinity the greatest. -/
def narrowExponent (exponent : Nat) : Nat := min (exponent - 112) 31

/-- The bits of the fraction that a layout keeps; a number out of its range keeps none. -/
def keptFraction (layout : SmallFloat) (value : Single) : Nat :=
  if 112 < value.exponent ∧ value.exponent < 143 ∨ value.exponent = 255 then
    value.fraction / 2 ^ (23 - layout.fractionBits)
  else 0

/-- The code of a single without its sign. -/
def rangedMagnitude (layout : SmallFloat) (value : Single) : Nat :=
  if value.exponent = 255 then
    exponentLimit * 2 ^ layout.fractionBits + value.fraction / 2 ^ (23 - layout.fractionBits)
  else if value.exponent ≤ biasGap then 0
  else if exponentLimit ≤ value.exponent - biasGap then exponentLimit * 2 ^ layout.fractionBits
  else (value.exponent - biasGap) * 2 ^ layout.fractionBits +
    value.fraction / 2 ^ (23 - layout.fractionBits)

/-- The exponent field of the single that a code with these fields stands for. -/
def widenExponent (exponent fraction : Nat) : Nat :=
  if exponent = 0 ∧ fraction = 0 then 0 else if exponent = 31 then 255 else exponent + 112

section Layout

variable {layout : SmallFloat}

theorem pack_fields {code : Nat} (range : code < 2 ^ (5 + layout.fractionBits)) :
    layout.exponentField code < 32 ∧ layout.fractionField code < 2 ^ layout.fractionBits ∧
      layout.pack false (layout.exponentField code) (layout.fractionField code) = code := by
  have power := Nat.two_pow_pos layout.fractionBits
  have front : code / 2 ^ layout.fractionBits < 2 ^ 5 := by
    rw [Nat.pow_add] at range
    exact Nat.div_lt_of_lt_mul (Nat.mul_comm _ _ ▸ range)
  refine ⟨Nat.mod_lt _ (by decide), Nat.mod_lt _ power, ?_⟩
  rw [pack, exponentField, fractionField, Nat.mod_eq_of_lt front, if_neg Bool.false_ne_true,
    Nat.zero_add, Nat.div_add_mod']

section Pack

variable (negative : Bool) {exponent fraction : Nat} (range : exponent < 32)
  (short : fraction < 2 ^ layout.fractionBits)

include short in
theorem fractionField_pack :
    layout.fractionField (layout.pack negative exponent fraction) = fraction := by
  rw [fractionField, pack, Nat.mul_add_mod', Nat.mod_eq_of_lt short]

include short in
theorem pack_div :
    layout.pack negative exponent fraction / 2 ^ layout.fractionBits =
      (if negative then 32 else 0) + exponent := by
  rw [pack, Nat.mul_comm, Nat.mul_add_div (Nat.two_pow_pos _), Nat.div_eq_of_lt short, Nat.add_zero]

include range short

theorem exponentField_pack :
    layout.exponentField (layout.pack negative exponent fraction) = exponent := by
  rw [exponentField, pack_div negative short]
  split <;> omega

private theorem sign_pack :
    (layout.pack negative exponent fraction / 2 ^ (5 + layout.fractionBits) % 2 == 1) =
      negative := by
  rw [Nat.add_comm 5, Nat.pow_add, ← Nat.div_div_eq_div_mul, pack_div negative short,
    Bool.eq_iff_iff, beq_iff_eq]
  cases negative
  · exact iff_of_false (by simp only [Bool.false_eq_true, ↓reduceIte]; omega) Bool.false_ne_true
  · exact iff_of_true (by simp only [↓reduceIte]; omega) rfl

theorem decode_pack (signs : negative = true → layout.signed = true) :
    layout.decode (layout.pack negative exponent fraction) =
      .ofFields negative
        (widenExponent exponent (fraction * 2 ^ (23 - layout.fractionBits)))
        (fraction * 2 ^ (23 - layout.fractionBits)) := by
  have sign : (layout.signed && layout.pack negative exponent fraction /
      2 ^ (5 + layout.fractionBits) % 2 == 1) = negative := by
    rw [sign_pack negative range short]
    cases negative
    · exact Bool.and_false _
    · rw [signs rfl]
      rfl
  have middle := exponentField_pack negative range short
  have low : layout.fractionField (layout.pack negative exponent fraction) = fraction :=
    fractionField_pack negative short
  unfold exponentField at middle
  unfold fractionField at low
  unfold decode
  simp only [sign, middle, low]
  rfl

end Pack

variable (narrow : layout.fractionBits ≤ 23)

include narrow in
theorem keptFraction_lt (value : Single) : layout.keptFraction value < 2 ^ layout.fractionBits := by
  unfold keptFraction
  split
  · refine Nat.div_lt_of_lt_mul ?_
    rw [← Nat.pow_add, Nat.sub_add_cancel narrow]
    exact value.fraction_lt
  · exact Nat.two_pow_pos _

include narrow in
theorem widened_fraction_lt {fraction : Nat} (short : fraction < 2 ^ layout.fractionBits) :
    fraction * 2 ^ (23 - layout.fractionBits) < 2 ^ 23 := by
  calc fraction * 2 ^ (23 - layout.fractionBits)
      < 2 ^ layout.fractionBits * 2 ^ (23 - layout.fractionBits) :=
        Nat.mul_lt_mul_of_pos_right short (Nat.two_pow_pos _)
    _ = 2 ^ 23 := by rw [← Nat.pow_add, Nat.add_sub_cancel' narrow]

theorem widenExponent_lt {exponent : Nat} (range : exponent < 32) (fraction : Nat) :
    widenExponent exponent fraction < 256 := by
  unfold widenExponent
  split
  · decide
  · split <;> omega

theorem narrowExponent_lt (exponent : Nat) : narrowExponent exponent < 32 := by
  unfold narrowExponent
  omega

theorem encode_eq_ranged (value : Single) :
    layout.encode value =
      if (value.isNegative && !layout.signed) = true then 0
      else if value.isNegative then 2 ^ (5 + layout.fractionBits) + layout.rangedMagnitude value
      else layout.rangedMagnitude value := rfl

theorem rangedMagnitude_eq (value : Single) :
    layout.rangedMagnitude value =
      narrowExponent value.exponent * 2 ^ layout.fractionBits + layout.keptFraction value := by
  have bound := value.exponent_lt
  unfold rangedMagnitude narrowExponent keptFraction biasGap exponentLimit
  split
  · rename_i special
    rw [special, if_pos (.inr rfl)]
    rfl
  · rename_i ordinary
    split
    · rename_i small
      rw [Nat.sub_eq_zero_of_le small, if_neg (by omega)]
      simp
    · rename_i normal
      split
      · rename_i large
        rw [Nat.min_eq_right large, if_neg (by omega), Nat.add_zero]
      · rename_i inside
        rw [Nat.min_eq_left (by omega), if_pos (.inl (by omega))]

theorem encode_eq {value : Single} (signs : layout.KeepsSign value) :
    layout.encode value =
      layout.pack value.isNegative (narrowExponent value.exponent) (layout.keptFraction value) := by
  have fits : (value.isNegative && !layout.signed) = false := by
    cases sign : value.isNegative
    · rfl
    · rw [signs sign]
      rfl
  have power : 2 ^ (5 + layout.fractionBits) = 32 * 2 ^ layout.fractionBits := Nat.pow_add 2 5 _
  rw [encode_eq_ranged, fits, if_neg Bool.false_ne_true, rangedMagnitude_eq, power, pack, Nat.add_mul]
  split
  · rw [Nat.add_assoc]
  · rw [Nat.zero_mul, Nat.zero_add]

theorem encode_of_not_keepsSign {value : Single} (lost : ¬layout.KeepsSign value) :
    layout.encode value = 0 := by
  obtain ⟨negative, unsigned⟩ := Classical.not_imp.mp lost
  rw [encode_eq_ranged, negative, Bool.eq_false_of_not_eq_true unsigned]
  rfl

include narrow

/-- A decoded code has the sign of the single and the bits of its fraction that are kept. -/
theorem decode_encode {value : Single} (signs : layout.KeepsSign value) :
    layout.decode (layout.encode value) =
      .ofFields value.isNegative
        (widenExponent (narrowExponent value.exponent)
          (layout.keptFraction value * 2 ^ (23 - layout.fractionBits)))
        (layout.keptFraction value * 2 ^ (23 - layout.fractionBits)) := by
  rw [encode_eq signs]
  exact decode_pack _ (narrowExponent_lt _) (keptFraction_lt narrow value) signs

private theorem decode_encode_small {value : Single} (signs : layout.KeepsSign value)
    (small : value.exponent ≤ 112) :
    layout.decode (layout.encode value) = .signedZero value.isNegative := by
  have exponent : narrowExponent value.exponent = 0 := by
    unfold narrowExponent
    omega
  have fraction : layout.keptFraction value = 0 := if_neg (by omega)
  rw [decode_encode narrow signs, exponent, fraction, Nat.zero_mul, Single.signedZero_eq]
  rfl

private theorem decode_encode_large {value : Single} (signs : layout.KeepsSign value)
    (large : 143 ≤ value.exponent) (finite : value.exponent ≤ 254) :
    layout.decode (layout.encode value) = .infinity value.isNegative := by
  have exponent : narrowExponent value.exponent = 31 := by
    unfold narrowExponent
    omega
  have fraction : layout.keptFraction value = 0 := if_neg (by omega)
  rw [decode_encode narrow signs, exponent, fraction, Nat.zero_mul, Single.infinity_eq]
  rfl

private theorem decode_encode_kept {value : Single} (signs : layout.KeepsSign value)
    (kept : 113 ≤ value.exponent ∧ value.exponent ≤ 142 ∨ value.exponent = 255) :
    layout.decode (layout.encode value) = value.clearLow (23 - layout.fractionBits) := by
  have fraction : layout.keptFraction value =
      value.fraction / 2 ^ (23 - layout.fractionBits) := if_pos (by omega)
  have exponent (rest : Nat) :
      widenExponent (narrowExponent value.exponent) rest = value.exponent := by
    unfold widenExponent narrowExponent
    split
    · omega
    · split <;> omega
  rw [decode_encode narrow signs, exponent, fraction, Single.clearLow_eq _ (Nat.sub_le _ _)]

/-- The number that a code with these fields stands for. -/
theorem read_pack (negative : Bool) {exponent fraction : Nat} (range : exponent < 32)
    (short : fraction < 2 ^ layout.fractionBits) (signs : negative = true → layout.signed = true) :
    (layout.decode (layout.pack negative exponent fraction)).decode =
      if exponent = 31 then
        if fraction * 2 ^ (23 - layout.fractionBits) = 0 then .infinite negative
        else .nan negative (fraction * 2 ^ (23 - layout.fractionBits))
      else if exponent = 0 ∧ fraction * 2 ^ (23 - layout.fractionBits) = 0 then
        .finite negative 0 (-149)
      else .finite negative (2 ^ 23 + fraction * 2 ^ (23 - layout.fractionBits)) (exponent - 38) := by
  have wide := widened_fraction_lt narrow short
  have bound := widenExponent_lt range (fraction * 2 ^ (23 - layout.fractionBits))
  rw [decode_pack negative range short signs, Single.decode_ofFields negative bound wide]
  generalize fraction * 2 ^ (23 - layout.fractionBits) = widened
  unfold widenExponent
  by_cases greatest : exponent = 31
  · have some : ¬(exponent = 0 ∧ widened = 0) := by omega
    rw [if_neg some, if_pos greatest, if_pos greatest, if_pos rfl]
  · rw [if_neg greatest, if_neg greatest]
    by_cases zero : exponent = 0 ∧ widened = 0
    · rw [if_pos zero, if_pos zero, if_neg (by decide), if_pos rfl, zero.2]
    · rw [if_neg zero, if_neg zero, if_neg (by omega), if_neg (by omega)]
      congr 1
      omega

/-- A code is encoded again as itself, unless it has the exponent of zero with a fraction. -/
theorem encode_decode_pack (negative : Bool) {exponent fraction : Nat} (range : exponent < 32)
    (short : fraction < 2 ^ layout.fractionBits) (signs : negative = true → layout.signed = true)
    (zero : exponent = 0 → fraction = 0) :
    layout.encode (layout.decode (layout.pack negative exponent fraction)) =
      layout.pack negative exponent fraction := by
  have power := Nat.two_pow_pos (23 - layout.fractionBits)
  have wide := widened_fraction_lt narrow short
  have bound := widenExponent_lt range (fraction * 2 ^ (23 - layout.fractionBits))
  rw [decode_pack negative range short signs]
  have kept : layout.KeepsSign (.ofFields negative
      (widenExponent exponent (fraction * 2 ^ (23 - layout.fractionBits)))
      (fraction * 2 ^ (23 - layout.fractionBits))) := by
    unfold KeepsSign
    rwa [Single.isNegative_ofFields _ bound wide]
  rw [encode_eq kept, Single.isNegative_ofFields _ bound wide,
    Single.exponent_ofFields _ bound wide, keptFraction, Single.exponent_ofFields _ bound wide,
    Single.fraction_ofFields _ bound wide, Nat.mul_div_cancel _ power]
  clear kept bound
  by_cases least : exponent = 0
  · rw [zero least, least, Nat.zero_mul]
    rfl
  · have widened : widenExponent exponent (fraction * 2 ^ (23 - layout.fractionBits)) =
        if exponent = 31 then 255 else exponent + 112 := if_neg fun both => least both.1
    rw [widened]
    split
    · rename_i greatest
      rw [greatest, if_pos (.inr rfl)]
      rfl
    · rw [if_pos (.inl (by omega)), narrowExponent, Nat.add_sub_cancel, Nat.min_eq_left (by omega)]

/-- A code of a single is a code with these fields, and zero has no fraction. -/
theorem exists_pack (value : Single) :
    ∃ negative exponent fraction, layout.encode value = layout.pack negative exponent fraction ∧
      exponent < 32 ∧ fraction < 2 ^ layout.fractionBits ∧
      (negative = true → layout.signed = true) ∧ (exponent = 0 → fraction = 0) := by
  by_cases signs : layout.KeepsSign value
  · have zero : narrowExponent value.exponent = 0 → layout.keptFraction value = 0 := by
      unfold narrowExponent
      exact fun least => if_neg (by omega)
    exact ⟨_, _, _, encode_eq signs, narrowExponent_lt _, keptFraction_lt narrow value, signs, zero⟩
  · have zero : layout.encode value = layout.pack false 0 0 := by
      rw [encode_of_not_keepsSign signs, pack, if_neg Bool.false_ne_true, Nat.zero_mul]
    exact ⟨_, _, _, zero, by decide, Nat.two_pow_pos _, fun sign => absurd sign Bool.false_ne_true,
      fun _ => rfl⟩

private theorem encode_decode_encode (value : Single) :
    layout.encode (layout.decode (layout.encode value)) = layout.encode value := by
  obtain ⟨negative, exponent, fraction, encoded, range, short, signs, zero⟩ :=
    exists_pack narrow value
  rw [encoded]
  exact encode_decode_pack narrow negative range short signs zero

theorem rangedMagnitude_le {value other : Single} (smaller : value.magnitude ≤ other.magnitude) :
    layout.rangedMagnitude value ≤ layout.rangedMagnitude other := by
  rw [value.magnitude_eq, other.magnitude_eq] at smaller
  have short := value.fraction_lt
  have shortOther := other.fraction_lt
  have bound := other.exponent_lt
  rw [rangedMagnitude_eq, rangedMagnitude_eq]
  rcases Nat.lt_or_ge value.exponent other.exponent with below | above
  · rcases Nat.lt_or_ge (narrowExponent value.exponent) (narrowExponent other.exponent) with
      step | level
    · have fits := keptFraction_lt narrow value
      have room : (narrowExponent value.exponent + 1) * 2 ^ layout.fractionBits ≤
          narrowExponent other.exponent * 2 ^ layout.fractionBits :=
        Nat.mul_le_mul_right _ step
      rw [Nat.add_mul, Nat.one_mul] at room
      omega
    · -- Only exponents out of range become alike, and they keep no fraction.
      have nothing : layout.keptFraction value = 0 := by
        unfold narrowExponent at level
        exact if_neg (by omega)
      have same : narrowExponent value.exponent ≤ narrowExponent other.exponent := by
        unfold narrowExponent
        omega
      rw [nothing, Nat.add_zero]
      exact Nat.le_add_right_of_le (Nat.mul_le_mul_right _ same)
  · have same : value.exponent = other.exponent := by omega
    have fraction : value.fraction ≤ other.fraction := by omega
    have kept : layout.keptFraction value ≤ layout.keptFraction other := by
      unfold keptFraction
      rw [same]
      split
      · exact Nat.div_le_div_right fraction
      · exact Nat.le_refl _
    rw [same]
    exact Nat.add_le_add_left kept _

/-- Among singles of one sign the code grows with the magnitude. -/
theorem encode_le {value other : Single} (sign : other.isNegative = value.isNegative)
    (smaller : value.magnitude ≤ other.magnitude) : layout.encode value ≤ layout.encode other := by
  have ranged := rangedMagnitude_le narrow smaller
  rw [encode_eq_ranged, encode_eq_ranged, sign]
  split
  · exact Nat.le_refl _
  · split
    · exact Nat.add_le_add_left ranged _
    · exact ranged

omit narrow in
theorem isNaN_pack (negative : Bool) {exponent fraction : Nat} (range : exponent < 32)
    (short : fraction < 2 ^ layout.fractionBits) :
    layout.IsNaN (layout.pack negative exponent fraction) ↔ exponent = 31 ∧ fraction ≠ 0 := by
  rw [IsNaN, exponentField_pack _ range short, fractionField_pack _ short]

theorem isNaN_decode_pack (negative : Bool) {exponent fraction : Nat} (range : exponent < 32)
    (short : fraction < 2 ^ layout.fractionBits)
    (signs : negative = true → layout.signed = true) :
    (layout.decode (layout.pack negative exponent fraction)).IsNaN ↔
      layout.IsNaN (layout.pack negative exponent fraction) := by
  have wide := widened_fraction_lt narrow short
  have bound := widenExponent_lt range (fraction * 2 ^ (23 - layout.fractionBits))
  have power := Nat.two_pow_pos (23 - layout.fractionBits)
  rw [isNaN_pack _ range short, decode_pack _ range short signs, Single.IsNaN,
    Single.exponent_ofFields _ bound wide, Single.fraction_ofFields _ bound wide]
  have present : fraction * 2 ^ (23 - layout.fractionBits) ≠ 0 ↔ fraction ≠ 0 :=
    ⟨fun some none => some (by rw [none, Nat.zero_mul]), fun some =>
      Nat.mul_ne_zero some power.ne'⟩
  rw [present]
  refine and_congr_left fun some => ?_
  unfold widenExponent
  rw [if_neg fun both => present.mpr some both.2]
  split <;> omega

private theorem isNaN_decode_encode (value : Single) :
    (layout.decode (layout.encode value)).IsNaN ↔ layout.IsNaN (layout.encode value) := by
  obtain ⟨negative, exponent, fraction, encoded, range, short, signs, -⟩ := exists_pack narrow value
  rw [encoded]
  exact isNaN_decode_pack narrow negative range short signs

/-- A single is encoded as a NaN exactly if it is one and has a bit in the part of its fraction that
is kept. -/
theorem isNaN_encode_iff {value : Single} (signs : layout.KeepsSign value) :
    layout.IsNaN (layout.encode value) ↔
      value.IsNaN ∧ 2 ^ (23 - layout.fractionBits) ≤ value.fraction := by
  have power := Nat.two_pow_pos (23 - layout.fractionBits)
  have kept : value.fraction / 2 ^ (23 - layout.fractionBits) ≠ 0 ↔
      2 ^ (23 - layout.fractionBits) ≤ value.fraction :=
    Nat.pos_iff_ne_zero.symm.trans (Nat.div_pos_iff.trans (and_iff_right power))
  rw [encode_eq signs, isNaN_pack _ (narrowExponent_lt _) (keptFraction_lt narrow value),
    ← kept, Single.IsNaN]
  unfold narrowExponent keptFraction
  constructor
  · rintro ⟨greatest, present⟩
    by_cases special : value.exponent = 255
    · rw [if_pos (.inr special)] at present
      exact ⟨⟨special, fun none => present (by rw [none, Nat.zero_div])⟩, present⟩
    · exact absurd (if_neg (by omega)) present
  · rintro ⟨⟨special, -⟩, present⟩
    rw [if_pos (.inr special), special]
    exact ⟨rfl, present⟩

private theorem isNaN_of_isNaN_encode {value : Single} (nan : layout.IsNaN (layout.encode value)) :
    value.IsNaN := by
  by_cases signs : layout.KeepsSign value
  · exact ((isNaN_encode_iff narrow signs).mp nan).1
  · rw [encode_of_not_keepsSign signs, IsNaN, exponentField, Nat.zero_div] at nan
    exact absurd nan.1 (by decide)

/-- A NaN whose payload is cut away becomes infinity. -/
theorem decode_encode_cut {value : Single} (signs : layout.KeepsSign value) (nan : value.IsNaN)
    (cut : value.fraction < 2 ^ (23 - layout.fractionBits)) :
    layout.decode (layout.encode value) = .infinity value.isNegative := by
  have fraction : layout.keptFraction value = 0 :=
    (if_pos (.inr nan.1)).trans (Nat.div_eq_of_lt cut)
  rw [decode_encode narrow signs, fraction, nan.1, Nat.zero_mul, Single.infinity_eq]
  rfl

end Layout

theorem fractionBits_range {width : Nat} {layout : SmallFloat}
    (known : ofWidth? width = some layout) :
    5 ≤ layout.fractionBits ∧ layout.fractionBits ≤ 10 := by
  unfold ofWidth? at known
  split at known <;> cases known <;> decide

/-- Encoding cuts the fraction, and nothing else happens to a number in range: decoding gives the
single without the bits that were cut, zero for an exponent that is too small and infinity for one
that is too large. So a decoded code is encoded as before, the codes of one sign are in the order of
the magnitudes, and a negative single is zero where there is no sign. -/
theorem encode_truncates {width : Nat} {layout : SmallFloat}
    (known : ofWidth? width = some layout) (value : Single) :
    (layout.KeepsSign value →
        (value.exponent ≤ 112 →
          layout.decode (layout.encode value) = .signedZero value.isNegative) ∧
        (143 ≤ value.exponent → value.exponent ≤ 254 →
          layout.decode (layout.encode value) = .infinity value.isNegative) ∧
        (113 ≤ value.exponent ∧ value.exponent ≤ 142 ∨ value.exponent = 255 →
          layout.decode (layout.encode value) = value.clearLow (23 - layout.fractionBits))) ∧
      layout.encode (layout.decode (layout.encode value)) = layout.encode value ∧
      (∀ other : Single, other.isNegative = value.isNegative →
        value.magnitude ≤ other.magnitude → layout.encode value ≤ layout.encode other) ∧
      (layout.signed = false → value.isNegative = true → layout.encode value = 0) := by
  have narrow : layout.fractionBits ≤ 23 := Nat.le_trans (fractionBits_range known).2 (by decide)
  refine ⟨fun signs => ⟨decode_encode_small narrow signs, decode_encode_large narrow signs,
    decode_encode_kept narrow signs⟩, encode_decode_encode narrow value,
    fun other sign smaller => encode_le narrow sign smaller, fun unsigned negative => ?_⟩
  refine encode_of_not_keepsSign fun signs => ?_
  rw [signs negative] at unsigned
  cases unsigned

/-- The greatest single below the range of the half floats loses thirteen bits. -/
theorem encode_truncates_half :
    let layout : SmallFloat := ⟨10, true⟩
    let value : Single := ⟨0xc77fffff⟩
    ofWidth? 16 = some layout ∧ layout.decode (layout.encode value) = ⟨0xc77fe000⟩ ∧
      layout.encode ⟨0xc77fe000⟩ = layout.encode value := by
  intro layout value
  have known : ofWidth? 16 = some layout := rfl
  obtain ⟨decoded, again, -, -⟩ := encode_truncates known value
  obtain ⟨-, -, kept⟩ := decoded fun _ => rfl
  have cut : layout.decode (layout.encode value) = ⟨0xc77fe000⟩ :=
    (kept (.inl (by decide))).trans (by decide)
  exact ⟨known, cut, cut ▸ again⟩

/-- A NaN whose sign has a place is encoded as one, and decoded as one, exactly if a bit of its
payload is among those that are kept; without such a bit it becomes infinity. Nothing else is
encoded as a NaN. A NaN that comes from a double is quiet, so it is always kept. -/
theorem encode_nan_iff {width : Nat} {layout : SmallFloat}
    (known : ofWidth? width = some layout) (value : Single) :
    (value.IsNaN → layout.KeepsSign value →
        (layout.IsNaN (layout.encode value) ∧ (layout.decode (layout.encode value)).IsNaN ↔
          2 ^ (23 - layout.fractionBits) ≤ value.fraction) ∧
        (value.fraction < 2 ^ (23 - layout.fractionBits) →
          layout.decode (layout.encode value) = .infinity value.isNegative)) ∧
      (layout.IsNaN (layout.encode value) → value.IsNaN) ∧
      ∀ number : Double, number.toSingle = value → value.IsNaN →
        2 ^ (23 - layout.fractionBits) ≤ value.fraction := by
  obtain ⟨least, most⟩ := fractionBits_range known
  have narrow : layout.fractionBits ≤ 23 := Nat.le_trans most (by decide)
  refine ⟨fun nan signs => ⟨?_, decode_encode_cut narrow signs nan⟩,
    isNaN_of_isNaN_encode narrow, ?_⟩
  · rw [isNaN_decode_encode narrow, and_self, isNaN_encode_iff narrow signs]
    exact and_iff_right nan
  · rintro number rfl nan
    have low : 2 ^ (23 - layout.fractionBits) ≤ 2 ^ 22 :=
      Nat.pow_le_pow_right (by decide) (by omega)
    exact Nat.le_trans low (Double.quiet_of_isNaN_toSingle nan)

/-- The payload of a NaN is kept in part. -/
theorem encode_nan_iff_quiet :
    let layout : SmallFloat := ⟨6, false⟩
    let value : Single := ⟨0x7fc00001⟩
    ofWidth? 11 = some layout ∧ value.IsNaN ∧ layout.KeepsSign value ∧
      layout.IsNaN (layout.encode value) ∧ (layout.decode (layout.encode value)).IsNaN := by
  intro layout value
  have known : ofWidth? 11 = some layout := rfl
  have nan : value.IsNaN := by decide
  have signs : layout.KeepsSign value := by decide
  obtain ⟨exact, -, -⟩ := encode_nan_iff known value
  exact ⟨known, nan, signs, (exact nan signs).1.mpr (by decide)⟩

/-- A NaN whose payload is in the bits that are cut is encoded as infinity in every layout. -/
theorem encode_nan_cut :
    let value : Single := ⟨0x7f800001⟩
    value.IsNaN ∧ ∀ layout ∈ [(⟨10, true⟩ : SmallFloat), ⟨6, false⟩, ⟨5, false⟩],
      ¬layout.IsNaN (layout.encode value) ∧
        layout.encode value = exponentLimit * 2 ^ layout.fractionBits ∧
        layout.decode (layout.encode value) = .infinity false := by
  decide

end SmallFloat

end GpuScript
