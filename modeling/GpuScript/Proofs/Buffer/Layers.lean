import GpuScript.Proofs.Buffer.Writing
import Mathlib.Data.List.Induction

/-! Rows of bytes that are written over one another. The row grows to the farthest write, each byte
is that of the last write that covers it, and zero where none does. Writing values into a buffer of
unsigned bytes lays their low bytes over the buffer. -/
namespace GpuScript

/-- Bytes to be written at a position. -/
structure ByteWrite where
  offset : Nat
  bytes : Array UInt8
  deriving DecidableEq

namespace ByteWrite

def reach (write : ByteWrite) : Nat := write.offset + write.bytes.size

/-- The byte that is written at an index, if one is. -/
def byte? (write : ByteWrite) (index : Nat) : Option UInt8 :=
  if write.offset ≤ index then write.bytes[index - write.offset]? else none

/-- The bytes with others written over them; the row grows to hold them. -/
def onto (write : ByteWrite) (bytes : Array UInt8) : Array UInt8 :=
  pasteBytes (resizeBytes bytes (max bytes.size write.reach)) write.offset write.bytes

end ByteWrite

/-- What writes into an empty row of bytes leave. -/
def layered (writes : List ByteWrite) : Array UInt8 :=
  writes.foldl (fun bytes write => write.onto bytes) #[]

theorem getElem?_pasteBytes (bytes : Array UInt8) (start : Nat) (source : Array UInt8)
    (index : Nat) :
    (pasteBytes bytes start source)[index]? =
      (bytes[index]?).map fun byte => ((ByteWrite.mk start source).byte? index).getD byte := by
  rw [pasteBytes, Array.getElem?_mapIdx]
  congr 1
  funext byte
  unfold ByteWrite.byte?
  dsimp only
  split <;> rfl

namespace ByteWrite

theorem size_onto (write : ByteWrite) (bytes : Array UInt8) :
    (write.onto bytes).size = max bytes.size write.reach := by
  rw [onto, size_pasteBytes, size_resizeBytes]

theorem getElem?_onto (write : ByteWrite) (bytes : Array UInt8) (index : Nat) :
    (write.onto bytes)[index]? =
      if index < max bytes.size write.reach then
        some ((write.byte? index).getD ((bytes[index]?).getD 0))
      else none := by
  rw [onto, getElem?_pasteBytes, getElem?_resizeBytes]
  split <;> rfl

private theorem lt_reach_of_byte? {write : ByteWrite} {index : Nat} {byte : UInt8}
    (written : write.byte? index = some byte) : index < write.reach := by
  unfold byte? at written
  split at written
  · obtain ⟨bound, -⟩ := Array.getElem?_eq_some_iff.mp written
    unfold reach
    omega
  · cases written

end ByteWrite

theorem layered_concat (writes : List ByteWrite) (write : ByteWrite) :
    layered (writes ++ [write]) = write.onto (layered writes) := by
  rw [layered, List.foldl_append]
  rfl

theorem size_layered_le {writes : List ByteWrite} {size : Nat} :
    (layered writes).size ≤ size ↔ ∀ write ∈ writes, write.reach ≤ size := by
  induction writes using List.reverseRecOn with
  | nil => simp [layered]
  | append_singleton writes write ih =>
    rw [layered_concat, ByteWrite.size_onto, Nat.max_le, ih, List.forall_mem_append]
    simp

theorem size_layered_mem {writes : List ByteWrite} (some : writes ≠ []) :
    ∃ write ∈ writes, (layered writes).size = write.reach := by
  induction writes using List.reverseRecOn with
  | nil => exact absurd rfl some
  | append_singleton writes write ih =>
    rw [layered_concat, ByteWrite.size_onto]
    rcases Nat.le_total (layered writes).size write.reach with farther | nearer
    · exact ⟨write, by simp, Nat.max_eq_right farther⟩
    · rw [Nat.max_eq_left nearer]
      by_cases first : writes = []
      · subst first
        exact ⟨write, by simp, (Nat.le_zero.mp nearer).symm⟩
      · obtain ⟨farthest, member, size⟩ := ih first
        exact ⟨farthest, List.mem_append_left _ member, size⟩

/-- Each byte is that of the last write that covers it, and zero where none does. -/
theorem getElem?_layered (writes : List ByteWrite) {index : Nat}
    (bound : index < (layered writes).size) :
    (layered writes)[index]? =
      some (((writes.filterMap (·.byte? index)).getLast?).getD 0) := by
  induction writes using List.reverseRecOn with
  | nil => cases bound
  | append_singleton writes write ih =>
    rw [layered_concat, ByteWrite.size_onto] at bound
    rw [layered_concat, ByteWrite.getElem?_onto, if_pos bound, List.filterMap_append]
    cases written : write.byte? index with
    | some byte => simp [written]
    | none =>
      have earlier : ((layered writes)[index]?).getD 0 =
          ((writes.filterMap (·.byte? index)).getLast?).getD 0 := by
        rcases Nat.lt_or_ge index (layered writes).size with inside | outside
        · rw [ih inside]
          rfl
        · have uncovered : writes.filterMap (·.byte? index) = [] := by
            refine List.filterMap_eq_nil_iff.mpr fun other member => ?_
            by_contra covered
            obtain ⟨byte, covered⟩ := Option.ne_none_iff_exists'.mp covered
            have reach := size_layered_le.mp (Nat.le_refl _) other member
            have before := ByteWrite.lt_reach_of_byte? covered
            omega
          rw [Array.getElem?_eq_none outside, uncovered]
          rfl
      simp [written, earlier]

def Value.lowByte (value : Value) : UInt8 := UInt8.ofNat value.word.toNat

namespace BitField

private theorem merge_byte (position code : Nat) (old : UInt8) :
    (⟨8 * position, 8⟩ : BitField).merge code 0 old = UInt8.ofNat code := by
  rw [← UInt8.toNat_inj]
  refine Nat.eq_of_testBit_eq fun place => ?_
  rcases Nat.lt_or_ge place 8 with inside | outside
  · have start : 8 * position / 8 = position := Nat.mul_div_cancel_left _ (by decide)
    rw [testBit_merge _ _ _ _ inside, if_pos, UInt8.toNat_ofNat', Nat.testBit_mod_two_pow]
    · simp [firstByte, inside]
    · simp [Covers, firstByte, inside]
  · have small (byte : UInt8) : byte.toNat < 2 ^ place :=
      Nat.lt_of_lt_of_le byte.toNat_lt (Nat.pow_le_pow_right (by decide) outside)
    rw [Nat.testBit_lt_two_pow (small _), Nat.testBit_lt_two_pow (small _)]

private theorem write_byte {bytes : Array UInt8} {position : Nat} (bound : position < bytes.size)
    (code : Nat) :
    (⟨8 * position, 8⟩ : BitField).write bytes code =
      .ok (bytes.modify position fun _ => UInt8.ofNat code) := by
  have first : (⟨8 * position, 8⟩ : BitField).firstByte = position :=
    Nat.mul_div_cancel_left _ (by decide)
  have span : (⟨8 * position, 8⟩ : BitField).span = 1 := by
    simp [BitField.span, BitField.lead]
  rw [write, first, span, if_neg (by omega)]
  exact congrArg (fun change => Except.ok (bytes.modify position change))
    (funext fun old => merge_byte position code old)

end BitField

namespace Buffer

theorem size_unsignedByte : Format.unsignedByte.size = 1 := rfl

private theorem inputCount_unsignedByte : Format.unsignedByte.inputCount = 1 := rfl

private theorem countHolding_unsignedByte (count offset values : Nat) :
    Format.unsignedByte.countHolding count offset values = max count (offset + values) := by
  have unpacked : Format.unsignedByte.isPacked = false := rfl
  simp only [Format.countHolding, Format.filledElements, unpacked, size_unsignedByte,
    inputCount_unsignedByte, Nat.div_one, Nat.mul_one, Bool.false_eq_true, if_false]
  split <;> omega

/-- A buffer of unsigned bytes with one element for each. -/
structure IsBytes (buffer : Buffer) : Prop where
  format : buffer.format = some .unsignedByte
  fitted : buffer.Fitted

def withBytes (buffer : Buffer) (bytes : Array UInt8) : Buffer :=
  { buffer with bytes, elementCount := bytes.size }

theorem size_of_unsignedByte {buffer : Buffer} (format : buffer.format = some .unsignedByte) :
    buffer.size = buffer.elementCount := by
  rw [Buffer.size, stride, format]
  exact Nat.mul_one _

theorem IsBytes.elementCount {buffer : Buffer} (isBytes : buffer.IsBytes) :
    buffer.elementCount = buffer.bytes.size :=
  (size_of_unsignedByte isBytes.format).symm.trans isBytes.fitted.symm

theorem IsBytes.withBytes_bytes {buffer : Buffer} (isBytes : buffer.IsBytes) :
    buffer.withBytes buffer.bytes = buffer := by
  rw [withBytes, ← isBytes.elementCount]

theorem isBytes_withBytes {buffer : Buffer} (format : buffer.format = some .unsignedByte)
    (bytes : Array UInt8) : (buffer.withBytes bytes).IsBytes := by
  have kept : (buffer.withBytes bytes).format = some .unsignedByte := format
  exact ⟨kept, (size_of_unsignedByte kept).symm⟩

theorem isBytes_empty {buffer : Buffer} (format : buffer.format = some .unsignedByte)
    (count : buffer.elementCount = 0) (bytes : buffer.bytes = #[]) : buffer.IsBytes := by
  refine ⟨format, ?_⟩
  rw [Fitted, size_of_unsignedByte format, count, bytes]
  rfl

private theorem apply_writeValue_byte (start number : Nat) (value : Value) {buffer : Buffer}
    (fits : start + number < buffer.bytes.size) :
    (writeValue .unsignedByte start number value).apply buffer =
      (.ok ⟨⟩, { buffer with
        bytes := buffer.bytes.modify (start + number) fun _ => value.lowByte }) := by
  have place : place? .unsignedByte start number =
      some ⟨start + number, ⟨.red, .unsignedInt, 8⟩⟩ := by
    have slots : Format.unsignedByte.slots = [⟨0, ⟨.red, .unsignedInt, 8⟩⟩] := rfl
    have inputs : Format.unsignedByte.inputCount = 1 := rfl
    have size : Format.unsignedByte.size = 1 := rfl
    simp [place?, slots, inputs, size, Nat.mod_one]
  have written : (⟨8 * (start + number), 8⟩ : BitField).writeValue buffer.bytes
      (Mode.unsignedInt.adapt value) =
        .ok (buffer.bytes.modify (start + number) fun _ => value.lowByte) := by
    rw [adapt_eq_word rfl]
    exact BitField.write_byte fits value.word.toNat
  rw [apply_writeValue place]
  dsimp only
  rw [written]

private theorem apply_writeValues_bytes (start number : Nat) (values : List Value) (buffer : Buffer)
    (fits : start + number + values.length ≤ buffer.bytes.size) :
    (writeValues .unsignedByte start number values).apply buffer =
      (.ok ⟨⟩, { buffer with
        bytes := pasteBytes buffer.bytes (start + number)
          (values.map Value.lowByte).toArray }) := by
  induction values generalizing number buffer with
  | nil =>
    have same : pasteBytes buffer.bytes (start + number) #[] = buffer.bytes := by
      refine Array.ext_getElem? fun index => ?_
      rw [getElem?_pasteBytes]
      simp [ByteWrite.byte?]
    exact congrArg (fun bytes => ((.ok ⟨⟩ : Except Fault Unit), { buffer with bytes })) same.symm
  | cons value values ih =>
    rw [List.length_cons] at fits
    rw [writeValues, Edit.apply_bind_of_ok
      (apply_writeValue_byte start number value (by omega)), ih (number + 1) _ (by simp; omega)]
    have same : pasteBytes (buffer.bytes.modify (start + number) fun _ => value.lowByte)
        (start + (number + 1)) (values.map Value.lowByte).toArray =
          pasteBytes buffer.bytes (start + number)
            ((value :: values).map Value.lowByte).toArray := by
      refine Array.ext_getElem? fun index => ?_
      rw [getElem?_pasteBytes, getElem?_pasteBytes, Array.getElem?_modify]
      unfold ByteWrite.byte?
      grind
    exact congrArg (fun bytes => ((.ok ⟨⟩ : Except Fault Unit), { buffer with bytes })) same

/-- The bytes that are cleared before a write are those that it writes. -/
theorem pasteBytes_zeroBytes (bytes : Array UInt8) (start : Nat) (source : Array UInt8) :
    pasteBytes (zeroBytes bytes start source.size) start source =
      pasteBytes bytes start source := by
  refine Array.ext_getElem? fun index => ?_
  rw [getElem?_pasteBytes, getElem?_pasteBytes, getElem?_zeroBytes, Option.map_map]
  congr 1
  funext byte
  by_cases written : start ≤ index ∧ index < start + source.size
  · have inside : index - start < source.size := by omega
    have found : (ByteWrite.mk start source).byte? index = some source[index - start] := by
      rw [ByteWrite.byte?, if_pos written.1]
      exact Array.getElem?_eq_getElem inside
    simp [found]
  · simp [written]

/-- Writing values into a buffer of bytes lays their low bytes over it. -/
theorem apply_setDataAt_bytes {buffer : Buffer} (isBytes : buffer.IsBytes) (values : List Value)
    (offset : Nat) :
    (setDataAt values offset).apply buffer =
      (.ok ⟨⟩, buffer.withBytes
        ((ByteWrite.mk offset (values.map Value.lowByte).toArray).onto buffer.bytes)) := by
  have format : (buffer.grown .unsignedByte offset values.length).format = some .unsignedByte :=
    isBytes.format
  have count : (buffer.grown .unsignedByte offset values.length).elementCount =
      max buffer.bytes.size (offset + values.length) := by
    rw [← isBytes.elementCount]
    exact countHolding_unsignedByte _ _ _
  have fits : offset + values.length ≤
      ((buffer.grown .unsignedByte offset values.length).cleared offset
        (values.length / 1 * 1)).bytes.size := by
    rw [cleared, size_zeroBytes, size_resizeBytes, size_of_unsignedByte format, count]
    exact Nat.le_max_right _ _
  have data : values.length / 1 * 1 = (values.map Value.lowByte).toArray.size := by simp
  have reach : (ByteWrite.mk offset (values.map Value.lowByte).toArray).reach =
      offset + values.length := by
    simp [ByteWrite.reach]
  rw [apply_setDataAt isBytes.format (by decide) (by decide), size_unsignedByte,
    inputCount_unsignedByte, apply_overwrite, if_neg (by dsimp only; omega)]
  dsimp only
  rw [apply_writeValues_bytes _ _ _ _ fits, cleared, size_of_unsignedByte format, count, data,
    Nat.add_zero, pasteBytes_zeroBytes]
  unfold withBytes
  rw [ByteWrite.size_onto, reach, ByteWrite.onto, reach, grown, countHolding_unsignedByte,
    isBytes.elementCount]

end Buffer

end GpuScript
