import GpuScript.Proofs.Bits.Field
import GpuScript.Proofs.Buffer.Sizes

namespace GpuScript

theorem size_resizeBytes (bytes : Array UInt8) (size : Nat) :
    (resizeBytes bytes size).size = size := by
  simp [resizeBytes]
  omega

theorem getElem?_resizeBytes (bytes : Array UInt8) (size index : Nat) :
    (resizeBytes bytes size)[index]? =
      if index < size then some ((bytes[index]?).getD 0) else none := by
  unfold resizeBytes
  grind

theorem resizeBytes_size (bytes : Array UInt8) : resizeBytes bytes bytes.size = bytes := by
  refine Array.ext_getElem? fun index => ?_
  rw [getElem?_resizeBytes]
  grind

theorem size_pasteBytes (bytes : Array UInt8) (start : Nat) (source : Array UInt8) :
    (pasteBytes bytes start source).size = bytes.size := by
  simp [pasteBytes]

theorem size_zeroBytes (bytes : Array UInt8) (start count : Nat) :
    (zeroBytes bytes start count).size = bytes.size := by
  simp [zeroBytes]

theorem getElem?_zeroBytes (bytes : Array UInt8) (start count index : Nat) :
    (zeroBytes bytes start count)[index]? =
      (bytes[index]?).map fun byte =>
        if start ≤ index ∧ index < start + count then 0 else byte :=
  Array.getElem?_mapIdx

theorem bitAt_resizeBytes (bytes : Array UInt8) (size place : Nat) :
    bitAt (resizeBytes bytes size) place = (decide (place < 8 * size) && bitAt bytes place) := by
  unfold bitAt
  rw [Array.getD_eq_getD_getElem?, getElem?_resizeBytes, Array.getD_eq_getD_getElem?]
  by_cases inside : place / 8 < size
  · have within : place < 8 * size := by omega
    simp [inside, within]
  · have beyond : ¬place < 8 * size := by omega
    simp [inside, beyond]

theorem bitAt_resizeBytes_of_le {bytes : Array UInt8} {size : Nat} (longer : bytes.size ≤ size)
    (place : Nat) : bitAt (resizeBytes bytes size) place = bitAt bytes place := by
  rw [bitAt_resizeBytes]
  by_cases inside : place < 8 * size
  · simp [inside]
  · have beyond : 8 * bytes.size ≤ place := by omega
    rw [bitAt_of_size_le beyond, Bool.and_false]

theorem bitAt_zeroBytes (bytes : Array UInt8) (start count place : Nat) :
    bitAt (zeroBytes bytes start count) place =
      if 8 * start ≤ place ∧ place < 8 * (start + count) then false else bitAt bytes place := by
  unfold bitAt
  rw [Array.getD_eq_getD_getElem?, getElem?_zeroBytes, Array.getD_eq_getD_getElem?]
  have bytewise : (start ≤ place / 8 ∧ place / 8 < start + count) ↔
      8 * start ≤ place ∧ place < 8 * (start + count) := by omega
  cases bytes[place / 8]? with
  | none => simp
  | some byte =>
    by_cases cleared : 8 * start ≤ place ∧ place < 8 * (start + count)
    · simp [cleared, bytewise.mpr cleared]
    · simp [cleared, mt bytewise.mp cleared]

private theorem wrapWord_signedWord (bits : UInt64) : wrapWord (signedWord bits) = bits := by
  have bound := bits.toNat_lt
  have low : (signedWord bits % 2 ^ 64).toNat = bits.toNat := by
    unfold signedWord
    split <;> omega
  rw [wrapWord, low, UInt64.ofNat_toNat]

theorem adapt_eq_word {mode : Mode} (integer : mode.isFloat = false) (value : Value) :
    mode.adapt value = .integer value.word := by
  unfold Mode.adapt
  rw [integer]
  cases value with
  | integer bits => rfl
  | double number => exact congrArg Value.integer (wrapWord_signedWord _)

theorem adapt_eq_double {mode : Mode} (float : mode.isFloat = true) (value : Value) :
    mode.adapt value = .double value.toDouble := by
  unfold Mode.adapt
  rw [float]
  cases value <;> rfl

namespace Buffer

/-- The bytes of a buffer are those of its elements. -/
def Fitted (buffer : Buffer) : Prop := buffer.bytes.size = buffer.size

/-- The buffer with its bytes fitted to its elements and some of them cleared. -/
def cleared (buffer : Buffer) (start count : Nat) : Buffer :=
  { buffer with bytes := zeroBytes (resizeBytes buffer.bytes buffer.size) start count }

def grown (buffer : Buffer) (format : Format) (offset values : Nat) : Buffer :=
  { buffer with elementCount := format.countHolding buffer.elementCount offset values }

theorem apply_writeValue {format : Format} {start number : Nat} {slot : Format.Slot}
    (placed : place? format start number = some slot) (value : Value) (buffer : Buffer) :
    (writeValue format start number value).apply buffer =
      match (⟨8 * slot.position, slot.component.bits⟩ : BitField).writeValue buffer.bytes
          (slot.component.mode.adapt value) with
      | .ok bytes => (.ok ⟨⟩, { buffer with bytes })
      | .error fault => (.error fault, buffer) := by
  rw [writeValue, placed, Edit.apply_bind_of_ok (Edit.apply_get buffer), Edit.apply_bind,
    Edit.apply_ofExcept]
  cases (⟨8 * slot.position, slot.component.bits⟩ : BitField).writeValue buffer.bytes
    (slot.component.mode.adapt value) <;> rfl

theorem apply_overwrite (format : Format) (shape : Shape) (values : List Value) (offset : Nat)
    (buffer : Buffer) :
    (overwrite format shape values offset).apply buffer =
      if buffer.elementCount * shape.inputs < values.length then
        (.error (.buffer .tooManyValues),
          buffer.cleared offset (values.length / shape.inputs * shape.size))
      else
        (writeValues format offset 0 values).apply
          (buffer.cleared offset (values.length / shape.inputs * shape.size)) := by
  rw [overwrite, Edit.apply_bind_of_ok (Edit.apply_modify _ _),
    Edit.apply_bind_of_ok (Edit.apply_modify _ _), Edit.apply_bind_of_ok (Edit.apply_get _)]
  by_cases short : buffer.elementCount * shape.inputs < values.length
  · rw [if_pos short]
    exact congrArg (fun operation => Edit.apply operation _) (if_pos short)
  · rw [if_neg short]
    exact congrArg (fun operation => Edit.apply operation _) (if_neg short)

theorem size_of_format {buffer : Buffer} {format : Format} (present : buffer.format = some format) :
    buffer.size = buffer.elementCount * format.size := by
  rw [Buffer.size, stride, present]
  rfl

theorem requireFormat_of_format {buffer : Buffer} {format : Format}
    (present : buffer.format = some format) : buffer.requireFormat = .ok format := by
  rw [requireFormat, present]

theorem shapeOf_of_pos {format : Format} (bytes : 0 < format.size) (inputs : 0 < format.inputCount)
    (buffer : Buffer) : buffer.shapeOf format = .ok ⟨format.size, format.inputCount⟩ :=
  if_neg (by omega)

private theorem apply_setValueCount {buffer : Buffer} {format : Format}
    (present : buffer.format = some format) (bytes : 0 < format.size)
    (inputs : 0 < format.inputCount) (values : Nat) :
    (setValueCount values).apply buffer =
      (.ok ⟨⟩, { buffer with
        elementCount := if format.isPacked then values else values / format.inputCount }) := by
  have count : buffer.countFor values =
      .ok (if format.isPacked then values else values / format.inputCount) := by
    rw [countFor, present]
    dsimp only
    rw [shapeOf_of_pos bytes inputs]
    split <;> rfl
  rw [setValueCount, Edit.apply_bind_of_ok (Edit.apply_get buffer), Edit.apply_bind,
    Edit.apply_ofExcept, count]
  rfl

theorem apply_setDataAt {buffer : Buffer} {format : Format} (present : buffer.format = some format)
    (bytes : 0 < format.size) (inputs : 0 < format.inputCount) (values : List Value)
    (offset : Nat) :
    (setDataAt values offset).apply buffer =
      (overwrite format ⟨format.size, format.inputCount⟩ values offset).apply
        (buffer.grown format offset values.length) := by
  have held : buffer.valueCount =
      if format.isPacked then buffer.elementCount
      else buffer.elementCount * format.inputCount := by
    rw [valueCount, present]
  rw [setDataAt, Edit.apply_bind_of_ok (Edit.apply_get buffer), requireFormat_of_format present,
    Edit.apply_bind_of_ok (Edit.apply_ofExcept _ _),
    Edit.apply_bind_of_ok (Edit.apply_get buffer), shapeOf_of_pos bytes inputs,
    Edit.apply_bind_of_ok (Edit.apply_ofExcept _ _), Edit.apply_bind_of_ok (Edit.apply_get buffer)]
  have count : format.countHolding buffer.elementCount offset values.length =
      if buffer.valueCount < offset / format.size * format.inputCount + values.length then
        format.filledElements offset values.length
      else buffer.elementCount := by
    rw [held]
    rfl
  rw [grown, count]
  change (if buffer.valueCount < offset / format.size * format.inputCount + values.length then _
    else _ : Edit Buffer Unit).apply buffer = _
  by_cases short : buffer.valueCount <
      offset / format.size * format.inputCount + values.length
  · rw [if_pos short, if_pos short]
    exact Edit.apply_bind_of_ok (apply_setValueCount present bytes inputs _) _
  · rw [if_neg short, if_neg short]

end Buffer

end GpuScript
