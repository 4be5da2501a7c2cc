import GpuScript.Proofs.Buffer.Writing

namespace GpuScript

/-- The bit that a code in this field puts at a place. -/
def BitField.bit? (field : BitField) (code place : Nat) : Option Bool :=
  if field.Covers place then some (code.testBit (place - field.offset)) else none

namespace Format.Slot

def field (slot : Slot) : BitField := ⟨8 * slot.position, slot.component.bits⟩

/-- The code of a value in a component, if it has one and there is room for it in as many bytes. -/
def code? (slot : Slot) (size : Nat) (value : Value) : Option Nat :=
  match (slot.component.mode.adapt value).code slot.component.bits with
  | .ok code => if slot.field.span ≤ size - slot.field.firstByte then some code else none
  | .error _ => none

/-- A value is stored exactly where it has a code, and then it marks its component alone. -/
theorem writeValue_ok {slot : Slot} {bytes after : Array UInt8} {value : Value}
    (written : slot.field.writeValue bytes (slot.component.mode.adapt value) = .ok after) :
    ∃ code, slot.code? bytes.size value = some code ∧ after.size = bytes.size ∧
      ∀ place, bitAt after place = (slot.field.bit? code place).getD (bitAt bytes place) := by
  unfold BitField.writeValue at written
  cases coded : (slot.component.mode.adapt value).code slot.field.width with
  | error fault =>
    rw [coded] at written
    cases written
  | ok code =>
    rw [coded] at written
    have wrote : slot.field.write bytes code = .ok after := written
    have room := BitField.write_ok_iff.mp ⟨after, wrote⟩
    have known : (slot.component.mode.adapt value).code slot.component.bits = .ok code := coded
    refine ⟨code, ?_, BitField.size_write wrote, fun place => ?_⟩
    · rw [code?, known]
      exact if_pos room
    · rw [BitField.bitAt_write wrote, BitField.bit?]
      split <;> rfl

private theorem writeValue_error {slot : Slot} {bytes : Array UInt8} {value : Value} {fault : Fault}
    (refused : slot.field.writeValue bytes (slot.component.mode.adapt value) = .error fault) :
    slot.code? bytes.size value = none := by
  unfold BitField.writeValue at refused
  cases coded : (slot.component.mode.adapt value).code slot.field.width with
  | error fault =>
    have unknown : (slot.component.mode.adapt value).code slot.component.bits = .error fault :=
      coded
    rw [code?, unknown]
  | ok code =>
    rw [coded] at refused
    have short : slot.field.write bytes code = .error fault := refused
    have known : (slot.component.mode.adapt value).code slot.component.bits = .ok code := coded
    rw [code?, known]
    refine if_neg fun room => ?_
    have writes : ∃ after, slot.field.write bytes code = .ok after :=
      BitField.write_ok_iff.mpr room
    obtain ⟨after, wrote⟩ := writes
    cases short.symm.trans wrote

end Format.Slot

namespace Buffer

/-- The bit that values put at a place of as many bytes, from the value with a number on: the last
one decides before the first that cannot be stored. -/
def mark? (format : Format) (start size place : Nat) : Nat → List Value → Option Bool
  | _, [] => none
  | number, value :: rest =>
    match place? format start number with
    | none => mark? format start size place (number + 1) rest
    | some slot =>
      match slot.code? size value with
      | none => none
      | some code =>
        (mark? format start size place (number + 1) rest).or (slot.field.bit? code place)

/-- A write of values leaves their marks and all other bits. -/
theorem bitAt_writeValues (format : Format) (start number : Nat) (values : List Value)
    (buffer : Buffer) :
    ((writeValues format start number values).apply buffer).2.bytes.size = buffer.bytes.size ∧
      ∀ place, bitAt ((writeValues format start number values).apply buffer).2.bytes place =
        (mark? format start buffer.bytes.size place number values).getD
          (bitAt buffer.bytes place) := by
  induction values generalizing number buffer with
  | nil => exact ⟨rfl, fun _ => rfl⟩
  | cons value values ih =>
    rw [writeValues, Edit.apply_bind]
    cases placed : place? format start number with
    | none =>
      have skipped : (writeValue format start number value).apply buffer = (.ok ⟨⟩, buffer) := by
        rw [writeValue, placed]
        rfl
      rw [skipped]
      simp only [mark?, placed]
      exact ih (number + 1) buffer
    | some slot =>
      simp only [mark?, placed]
      rw [apply_writeValue placed]
      cases stored : (⟨8 * slot.position, slot.component.bits⟩ : BitField).writeValue buffer.bytes
        (slot.component.mode.adapt value) with
      | error fault =>
        rw [Format.Slot.writeValue_error stored]
        exact ⟨rfl, fun _ => rfl⟩
      | ok bytes =>
        obtain ⟨code, coded, size, bits⟩ := Format.Slot.writeValue_ok stored
        obtain ⟨sizeRest, bitsRest⟩ := ih (number + 1) { buffer with bytes }
        rw [coded]
        refine ⟨sizeRest.trans size, fun place => ?_⟩
        rw [bitsRest place, bits place]
        dsimp only
        rw [size]
        cases mark? format start buffer.bytes.size place (number + 1) values <;> rfl

end Buffer

end GpuScript
