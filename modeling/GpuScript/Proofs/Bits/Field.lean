import GpuScript.Bits.Field

namespace GpuScript

/-- The bit at a place; behind the end of the bytes all bits are zero. -/
def bitAt (bytes : Array UInt8) (place : Nat) : Bool :=
  (bytes.getD (place / 8) 0).toNat.testBit (place % 8)

theorem bitAt_of_size_le {bytes : Array UInt8} {place : Nat} (beyond : 8 * bytes.size ≤ place) :
    bitAt bytes place = false := by
  have outside : bytes.size ≤ place / 8 := by omega
  simp [bitAt, outside]

private theorem testBit_complement (byte : UInt8) {place : Nat} (inside : place < 8) :
    (~~~byte).toNat.testBit place = !byte.toNat.testBit place := by
  have flipped : (~~~byte).toNat = 2 ^ 8 - (byte.toNat + 1) := by
    rw [UInt8.toNat_not]
    exact (Nat.sub_sub _ _ _).trans (congrArg _ (Nat.add_comm _ _))
  rw [flipped, Nat.testBit_two_pow_sub_succ byte.toNat_lt]
  simp [inside]

theorem getD_eq_of_bitAt {left right : Array UInt8} {index : Nat}
    (same : ∀ place < 8, bitAt left (8 * index + place) = bitAt right (8 * index + place)) :
    left.getD index 0 = right.getD index 0 := by
  rw [← UInt8.toNat_inj]
  refine Nat.eq_of_testBit_eq fun place => ?_
  rcases Nat.lt_or_ge place 8 with inside | outside
  · have byte : (8 * index + place) / 8 = index := by omega
    have bit : (8 * index + place) % 8 = place := by omega
    have agreed := same place inside
    unfold bitAt at agreed
    rwa [byte, bit] at agreed
  · have small (byte : UInt8) : byte.toNat < 2 ^ place :=
      Nat.lt_of_lt_of_le byte.toNat_lt (Nat.pow_le_pow_right (by decide) outside)
    rw [Nat.testBit_lt_two_pow (small _), Nat.testBit_lt_two_pow (small _)]

theorem eq_of_bitAt {left right : Array UInt8} (size : left.size = right.size)
    (same : ∀ place, bitAt left place = bitAt right place) : left = right := by
  refine Array.ext size fun index leftBound rightBound => ?_
  have byte : left.getD index 0 = right.getD index 0 :=
    getD_eq_of_bitAt fun place _ => same (8 * index + place)
  simpa [leftBound, rightBound] using byte

namespace BitField

def Covers (field : BitField) (place : Nat) : Prop :=
  field.offset ≤ place ∧ place < field.offset + field.width

instance (field : BitField) (place : Nat) : Decidable (field.Covers place) :=
  inferInstanceAs (Decidable (_ ∧ _))

private theorem getElem?_foldl_modify (bytes : Array UInt8) (first count : Nat)
    (change : Nat → UInt8 → UInt8) (position : Nat) :
    ((List.range count).foldl
        (fun bytes index => bytes.modify (first + index) (change index)) bytes)[position]? =
      if first ≤ position ∧ position < first + count then
        bytes[position]?.map (change (position - first))
      else bytes[position]? := by
  induction count with
  | zero =>
    rw [if_neg (by omega)]
    rfl
  | succ count ih =>
    rw [List.range_succ, List.foldl_append, List.foldl_cons, List.foldl_nil,
      Array.getElem?_modify, ih]
    by_cases last : first + count = position
    · subst last
      rw [if_pos rfl, if_neg (by omega), if_pos (by omega), Nat.add_sub_cancel_left]
    · rw [if_neg last]
      split <;> split <;> first | rfl | omega

theorem lead_lt (field : BitField) : field.lead < 8 := Nat.mod_lt _ (by decide)

theorem offset_eq (field : BitField) : 8 * field.firstByte + field.lead = field.offset :=
  Nat.div_add_mod field.offset 8

private theorem testBit_mask (field : BitField) (index : Nat) {place : Nat} (inside : place < 8) :
    (field.mask index).toNat.testBit place =
      decide (field.Covers (8 * (field.firstByte + index) + place)) := by
  have lead := field.lead_lt
  have offset := field.offset_eq
  rw [mask, UInt8.toNat_ofNat', Nat.testBit_mod_two_pow, Nat.testBit_mul_two_pow,
    Nat.testBit_two_pow_sub_one, Bool.eq_iff_iff]
  simp only [Bool.and_eq_true, decide_eq_true_eq]
  unfold Covers skipped covered
  by_cases start : index = 0
  · simp only [start, ↓reduceIte]
    omega
  · simp only [start, ↓reduceIte]
    omega

theorem testBit_merge (field : BitField) (code index : Nat) (old : UInt8) {place : Nat}
    (inside : place < 8) :
    (field.merge code index old).toNat.testBit place =
      if field.Covers (8 * (field.firstByte + index) + place) then
        code.testBit (8 * (field.firstByte + index) + place - field.offset)
      else old.toNat.testBit place := by
  have offset := field.offset_eq
  rw [merge, UInt8.toNat_or, UInt8.toNat_and, UInt8.toNat_and, Nat.testBit_or, Nat.testBit_and,
    Nat.testBit_and, testBit_complement _ inside, testBit_mask _ _ inside]
  by_cases covers : field.Covers (8 * (field.firstByte + index) + place)
  · have start := covers.1
    have here : place + 8 * index - field.lead =
        8 * (field.firstByte + index) + place - field.offset := by omega
    have behind : field.lead ≤ place + 8 * index := by omega
    rw [if_pos covers, UInt8.toNat_ofNat', Nat.testBit_mod_two_pow, Nat.testBit_div_two_pow,
      Nat.testBit_mul_two_pow, here]
    simp [covers, inside, behind]
  · rw [if_neg covers]
    simp [covers]

theorem size_write {field : BitField} {bytes after : Array UInt8} {code : Nat}
    (written : field.write bytes code = .ok after) : after.size = bytes.size := by
  unfold write at written
  split at written
  · cases written
  · cases written
    rename_i fits
    clear fits
    generalize List.range field.span = indices
    induction indices generalizing bytes with
    | nil => rfl
    | cons index rest ih => rw [List.foldl_cons, ih, Array.size_modify]

/-- Writing makes the bits of the field those of the code and leaves all others alone. -/
theorem bitAt_write {field : BitField} {bytes after : Array UInt8} {code : Nat}
    (written : field.write bytes code = .ok after) (place : Nat) :
    bitAt after place =
      if field.Covers place then code.testBit (place - field.offset) else bitAt bytes place := by
  have offset := field.offset_eq
  have lead := field.lead_lt
  have split : 8 * (place / 8) + place % 8 = place := Nat.div_add_mod place 8
  have inside : place % 8 < 8 := Nat.mod_lt _ (by decide)
  unfold write at written
  split at written
  · cases written
  · rename_i fits
    cases written
    unfold bitAt
    rw [Array.getD_eq_getD_getElem?, getElem?_foldl_modify]
    by_cases within : field.firstByte ≤ place / 8 ∧ place / 8 < field.firstByte + field.span
    · have bound : place / 8 < bytes.size := by omega
      have index : field.firstByte + (place / 8 - field.firstByte) = place / 8 :=
        Nat.add_sub_cancel' within.1
      rw [if_pos within, Array.getElem?_eq_getElem bound, Option.map_some, Option.getD_some,
        testBit_merge _ _ _ _ inside, index, split]
      simp [bound]
    · have outside : ¬field.Covers place := by
        unfold Covers
        unfold span at within
        omega
      rw [if_neg within, if_neg outside, Array.getD_eq_getD_getElem?]

theorem write_ok_iff {field : BitField} {bytes : Array UInt8} {code : Nat} :
    (∃ after, field.write bytes code = .ok after) ↔
      field.span ≤ bytes.size - field.firstByte := by
  unfold write
  split
  · rename_i short
    exact iff_of_false (fun ⟨_, done⟩ => nomatch done) (Nat.not_le.mpr short)
  · rename_i fits
    exact iff_of_true ⟨_, rfl⟩ (Nat.not_lt.mp fits)

end BitField

end GpuScript
