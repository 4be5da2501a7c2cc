import GpuScript.Proofs.Bits.Storing

/-! Fields read back. Reading moves the bits of a field to the front of other bytes, and behind the
end of a source all bits are zero; so what has been stored in a field is what is read from it. -/
namespace GpuScript

theorem bitAt_replicate_zero (count place : Nat) :
    bitAt (Array.replicate count 0) place = false := by
  have zero : (Array.replicate count (0 : UInt8)).getD (place / 8) 0 = 0 := by
    rw [Array.getD_eq_getD_getElem?, Array.getElem?_replicate]
    split <;> rfl
  rw [bitAt, zero]
  exact Nat.zero_testBit _

namespace BitField

theorem testBit_littleEndian (bytes : List UInt8) (place : Nat) :
    (littleEndian bytes).testBit place =
      (bytes.getD (place / 8) 0).toNat.testBit (place % 8) := by
  induction bytes generalizing place with
  | nil => simp [littleEndian]
  | cons byte rest ih =>
    have unfolded : littleEndian (byte :: rest) = 2 ^ 8 * littleEndian rest + byte.toNat :=
      Nat.add_comm _ _
    rw [unfolded, Nat.testBit_two_pow_mul_add _ byte.toNat_lt]
    by_cases first : place < 8
    · rw [if_pos first, Nat.div_eq_of_lt first, Nat.mod_eq_of_lt first]
      rfl
    · have later : place / 8 = (place - 8) / 8 + 1 := by omega
      have bit : place % 8 = (place - 8) % 8 := by omega
      rw [if_neg first, ih, later, bit, List.getD_cons_succ]

/-- The window of a field begins with the bits of the field. -/
theorem testBit_window {field : BitField} {index : Nat} (inside : index < field.width)
    (bytes : Array UInt8) :
    (field.window bytes).testBit index = bitAt bytes (field.offset + index) := by
  have lead := field.lead_lt
  have offset := field.offset_eq
  have within : (index + field.lead) / 8 < field.span := by
    unfold span
    omega
  have byte : field.firstByte + (index + field.lead) / 8 = (field.offset + index) / 8 := by omega
  have bit : (index + field.lead) % 8 = (field.offset + index) % 8 := by omega
  rw [window, Nat.testBit_div_two_pow, testBit_littleEndian, bitAt, ← byte, ← bit]
  simp [within]

/-- A field of at most 64 bits is read into bytes that have room for it. -/
theorem copy_exact {field : BitField} (narrow : field.width ≤ 64) (source : Array UInt8)
    {destination : Array UInt8} (room : bytesFor field.width ≤ destination.size) :
    ∃ read, field.copy source destination = .ok read ∧ read.size = destination.size ∧
      ∀ place, bitAt read place =
        if place < field.width then bitAt source (field.offset + place)
        else bitAt destination place := by
  have fits : (⟨0, field.width⟩ : BitField).span ≤
      destination.size - (⟨0, field.width⟩ : BitField).firstByte := by
    unfold bytesFor at room
    simp only [span, lead, firstByte]
    omega
  obtain ⟨read, wrote⟩ : ∃ read, (⟨0, field.width⟩ : BitField).write destination
      (field.window source) = .ok read := write_ok_iff.mpr fits
  refine ⟨read, ?_, size_write wrote, fun place => ?_⟩
  · rw [copy, if_neg (Nat.not_lt.mpr narrow)]
    exact wrote
  · rw [bitAt_write wrote]
    by_cases inside : place < field.width
    · have covers : (⟨0, field.width⟩ : BitField).Covers place := ⟨Nat.zero_le _, by simpa⟩
      rw [if_pos covers, if_pos inside]
      exact testBit_window inside source
    · have outside : ¬(⟨0, field.width⟩ : BitField).Covers place :=
        fun covers => inside (by simpa using covers.2)
      rw [if_neg outside, if_neg inside]

end BitField

namespace FieldValue

theorem Filled.copy_exact {entries : List FieldValue} {before after : Array UInt8}
    (filled : Filled entries before after) {entry : FieldValue} (member : entry ∈ entries)
    (legal : entry.value.HasWidth entry.field.width) :
    ∃ read, entry.field.copy after (Array.replicate 8 0) = .ok read ∧ read.size = 8 ∧
      ∀ place, bitAt read place =
        (decide (place < entry.field.width) && entry.pattern.testBit place) := by
  have narrow := legal.le
  have room : bytesFor entry.field.width ≤ (Array.replicate 8 (0 : UInt8)).size := by
    rw [Array.size_replicate, bytesFor]
    omega
  obtain ⟨read, done, size, bits⟩ := BitField.copy_exact narrow after room
  refine ⟨read, done, size.trans Array.size_replicate, fun place => ?_⟩
  rw [bits]
  by_cases inside : place < entry.field.width
  · have covers : entry.field.Covers (entry.field.offset + place) :=
      ⟨Nat.le_add_right _ _, by omega⟩
    rw [if_pos inside, filled.inside entry member _ covers, Nat.add_sub_cancel_left]
    simp [inside]
  · rw [if_neg inside, bitAt_replicate_zero]
    simp [inside]

/-- Fields without a common bit that take their values can be filled in any order, and each of them
then reads back as the low bits of its pattern with zeros above. Behind the end of a source all bits
are read as zeros. -/
theorem fill_and_read {bytes : Array UInt8} {entries : List FieldValue}
    (apart : entries.Pairwise Apart) (accepted : ∀ entry ∈ entries, entry.store.Succeeds bytes) :
    (∃ after,
        (∀ order : List FieldValue, order.Perm entries →
          (order.forM store).apply bytes = (.ok ⟨⟩, after)) ∧
          ∀ entry ∈ entries, ∃ read,
            entry.field.copy after (Array.replicate 8 0) = .ok read ∧ read.size = 8 ∧
              ∀ place, bitAt read place =
                (decide (place < entry.field.width) && entry.pattern.testBit place)) ∧
      ∀ (field : BitField) (source destination : Array UInt8), field.width ≤ 64 →
        bytesFor field.width ≤ destination.size →
        ∃ read, field.copy source destination = .ok read ∧
          ∀ place < field.width, 8 * source.size ≤ field.offset + place →
            bitAt read place = false := by
  constructor
  · obtain ⟨after, -, filled⟩ := exists_filled apart accepted
    refine ⟨after, fun order reordered => filled_of_perm apart accepted filled reordered, ?_⟩
    intro entry member
    have legal := (BitField.store_succeeds_iff.mp (accepted entry member)).1
    exact filled.copy_exact member legal
  · intro field source destination narrow room
    obtain ⟨read, done, -, bits⟩ := BitField.copy_exact narrow source room
    refine ⟨read, done, fun place inside beyond => ?_⟩
    rw [bits, if_pos inside, bitAt_of_size_le beyond]

/-- Sixty-four bits behind three others share a byte with them and touch nine bytes. -/
theorem fill_and_read_nine :
    let low : FieldValue := ⟨⟨0, 3⟩, .integer 5⟩
    let wide : FieldValue := ⟨⟨3, 64⟩, .integer 0x0123456789abcdef⟩
    let bytes : Array UInt8 := Array.replicate 9 0xff
    ∃ after, ([low, wide].forM store).apply bytes = (.ok ⟨⟩, after) ∧
      ([wide, low].forM store).apply bytes = (.ok ⟨⟩, after) ∧
      ∃ read, wide.field.copy after (Array.replicate 8 0) = .ok read ∧
        ∀ place, bitAt read place =
          (decide (place < 64) && Nat.testBit 0x0123456789abcdef place) := by
  intro low wide bytes
  have spread : low.Apart wide := apart_of_le (by decide)
  have apart : [low, wide].Pairwise Apart := List.pairwise_pair.mpr spread
  have accepted : ∀ entry ∈ [low, wide], entry.store.Succeeds bytes := by
    intro entry member
    refine BitField.store_succeeds_iff.mpr ?_
    rcases List.mem_cons.mp member with rfl | member
    · decide
    · cases List.mem_singleton.mp member
      decide
  obtain ⟨⟨after, orders, reads⟩, -⟩ := fill_and_read apart accepted
  obtain ⟨read, done, -, bits⟩ := reads wide (.tail _ (.head _))
  exact ⟨after, orders _ (.refl _), orders _ (.swap _ _ _), read, done, bits⟩

end FieldValue

end GpuScript
