import GpuScript.Proofs.Bits.Storing
import GpuScript.Proofs.Buffer.History
import GpuScript.Proofs.Buffer.Marks

/-! Whole elements written into a buffer. The components of an element stand one behind the other,
so the values of a write go to fields without a common bit; a write at the start of an element fills
exactly the elements that its values make up. -/
namespace GpuScript

namespace Component

/-- A component that every value can be stored in. -/
def Encodable (component : Component) : Prop :=
  if component.mode.isFloat then component.bits ∈ [10, 11, 16, 32, 64] else component.bits ≤ 64

instance (component : Component) : Decidable component.Encodable :=
  inferInstanceAs (Decidable (if component.mode.isFloat then component.bits ∈ [10, 11, 16, 32, 64]
    else component.bits ≤ 64))

/-- The bits that stand for a value in a component, which takes it in the representation of its
mode. -/
def pattern (component : Component) (value : Value) : Nat :=
  (component.mode.adapt value).pattern component.bits

theorem Encodable.hasWidth {component : Component} (encodable : component.Encodable)
    (value : Value) : (component.mode.adapt value).HasWidth component.bits := by
  unfold Encodable at encodable
  cases float : component.mode.isFloat with
  | true =>
    rw [if_pos float] at encodable
    rw [adapt_eq_double float]
    exact encodable
  | false =>
    rw [if_neg (Bool.not_eq_true _ ▸ float)] at encodable
    rw [adapt_eq_word float]
    exact encodable

end Component

namespace Format

private theorem position_le {position : Nat} {segments : List Segment} {slot : Slot}
    (member : slot ∈ slotsFrom position segments) : position ≤ slot.position := by
  induction segments generalizing position with
  | nil => cases member
  | cons segment rest ih =>
    cases segment with
    | padding bytes => exact Nat.le_of_add_right_le (ih member)
    | component component =>
      rcases List.mem_cons.mp member with rfl | member
      · exact Nat.le_refl _
      · exact Nat.le_of_add_right_le (ih member)

/-- Each component begins behind the bytes of those before it. -/
theorem pairwise_slotsFrom (position : Nat) (segments : List Segment) :
    (slotsFrom position segments).Pairwise fun left right =>
      left.position + bytesFor left.component.bits ≤ right.position := by
  induction segments generalizing position with
  | nil => exact .nil
  | cons segment rest ih =>
    cases segment with
    | padding bytes => exact ih _
    | component component => exact .cons (fun _ later => position_le later) (ih _)

variable {format : Format}

theorem slot_end {slot : Slot} (member : slot ∈ format.slots) :
    slot.position + bytesFor slot.component.bits ≤ format.size := by
  have bound := slotsFrom_end member
  rwa [Nat.zero_add] at bound

private theorem slot_order {first second : Nat} {left right : Slot} (before : first < second)
    (leftSlot : format.slots[first]? = some left) (rightSlot : format.slots[second]? = some right) :
    left.position + bytesFor left.component.bits ≤ right.position := by
  obtain ⟨leftBound, rfl⟩ := List.getElem?_eq_some_iff.mp leftSlot
  obtain ⟨rightBound, rfl⟩ := List.getElem?_eq_some_iff.mp rightSlot
  exact List.pairwise_iff_getElem.mp (pairwise_slotsFrom 0 format.segments) first second leftBound
    rightBound before

theorem Slot.field_end (slot : Slot) :
    slot.field.offset + slot.field.width ≤
      8 * (slot.position + bytesFor slot.component.bits) := by
  unfold field bytesFor
  dsimp only
  omega

theorem Slot.firstByte_field (slot : Slot) : slot.field.firstByte = slot.position :=
  Nat.mul_div_cancel_left _ (by decide)

theorem Slot.span_field (slot : Slot) : slot.field.span = bytesFor slot.component.bits := by
  have lead : slot.field.lead = 0 := Nat.mul_mod_right 8 slot.position
  rw [BitField.span, lead, Nat.zero_add]
  rfl

theorem inputCount_of_isPacked (packed : format.isPacked = true) : format.inputCount = 1 := by
  cases kind : format.type with
  | number number =>
    rw [isPacked, kind] at packed
    cases packed
  | channels list =>
    rw [isPacked, kind] at packed
    have one : list.isPacked = true := by
      simpa [ElementType.isPacked, ElementType.packBits?] using packed
    rw [inputCount, segments, kind, Layout.segments, if_pos one]
    rfl

theorem countHolding_elements (inputs : 0 < format.inputCount) (count offset elements : Nat) :
    format.countHolding count offset (format.inputCount * elements) =
      max count (offset / format.size + elements) := by
  have needed : offset / format.size * format.inputCount + format.inputCount * elements =
      (offset / format.size + elements) * format.inputCount := by
    rw [Nat.mul_comm format.inputCount, Nat.add_mul]
  unfold countHolding filledElements
  rw [needed]
  generalize offset / format.size + elements = stop
  cases packed : format.isPacked with
  | true =>
    rw [inputCount_of_isPacked packed, if_pos rfl, if_pos rfl, Nat.mul_one]
    dsimp only
    split <;> omega
  | false =>
    rw [if_neg Bool.false_ne_true, if_neg Bool.false_ne_true, Nat.mul_div_cancel _ inputs]
    have shorter : count * format.inputCount < stop * format.inputCount ↔ count < stop :=
      Nat.mul_lt_mul_right inputs
    dsimp only
    simp only [shorter]
    split <;> omega

end Format

namespace Buffer

variable {format : Format} {start : Nat}

/-- Where the value with a number goes, by element and component. -/
theorem place?_element (inputs : 0 < format.inputCount) {element index : Nat} {slot : Format.Slot}
    (found : format.slots[index]? = some slot) :
    place? format start (element * format.inputCount + index) =
      some { slot with position := start + element * format.size + slot.position } := by
  have bound : index < format.inputCount := by
    obtain ⟨bound, -⟩ := List.getElem?_eq_some_iff.mp found
    rwa [Format.length_slots] at bound
  have place : (element * format.inputCount + index) % format.inputCount = index := by
    rw [Nat.mul_add_mod_self_right, Nat.mod_eq_of_lt bound]
  have row : (element * format.inputCount + index) / format.inputCount = element := by
    rw [Nat.mul_comm, Nat.mul_add_div inputs, Nat.div_eq_of_lt bound, Nat.add_zero]
  rw [place?, place, row, found]
  rfl

/-- Each value goes to a component of an element. -/
theorem exists_slot (inputs : 0 < format.inputCount) (start number : Nat) :
    ∃ slot, format.slots[number % format.inputCount]? = some slot ∧
      place? format start number = some { slot with
        position := start + number / format.inputCount * format.size + slot.position } := by
  have bound : number % format.inputCount < format.slots.length := by
    rw [Format.length_slots]
    exact Nat.mod_lt _ inputs
  refine ⟨format.slots[number % format.inputCount], List.getElem?_eq_getElem bound, ?_⟩
  rw [place?, List.getElem?_eq_getElem bound]
  rfl

/-- A value that comes later goes behind the bytes of one that comes before. -/
theorem place_order (inputs : 0 < format.inputCount) {first second : Nat}
    (before : first < second) {left right : Format.Slot}
    (leftPlace : place? format start first = some left)
    (rightPlace : place? format start second = some right) :
    left.position + bytesFor left.component.bits ≤ right.position := by
  obtain ⟨leftSlot, leftFound, leftAt⟩ := exists_slot inputs start first
  obtain ⟨rightSlot, rightFound, rightAt⟩ := exists_slot inputs start second
  cases leftAt.symm.trans leftPlace
  cases rightAt.symm.trans rightPlace
  dsimp only
  have rows : first / format.inputCount ≤ second / format.inputCount :=
    Nat.div_le_div_right (Nat.le_of_lt before)
  rcases Nat.lt_or_eq_of_le rows with earlier | same
  · -- The first value is in an earlier element, which ends before the later one begins.
    have inside := Format.slot_end (List.mem_of_getElem? leftFound)
    have ends := Nat.mul_le_mul_right format.size (Nat.succ_le_of_lt earlier)
    rw [Nat.succ_mul] at ends
    omega
  · -- Both are in one element, where the components are in order.
    have split := Nat.div_add_mod first format.inputCount
    have other := Nat.div_add_mod second format.inputCount
    rw [same] at split
    have order : first % format.inputCount < second % format.inputCount := by omega
    have inside := Format.slot_order order leftFound rightFound
    rw [same]
    omega

/-- The fields that values from the one with a number on go to. -/
def fieldValues (format : Format) (start : Nat) : Nat → List Value → List FieldValue
  | _, [] => []
  | number, value :: rest =>
    match place? format start number with
    | none => fieldValues format start (number + 1) rest
    | some slot =>
      ⟨slot.field, slot.component.mode.adapt value⟩ :: fieldValues format start (number + 1) rest

theorem mem_fieldValues {number : Nat} {values : List Value} {entry : FieldValue} :
    entry ∈ fieldValues format start number values ↔
      ∃ index value slot, values[index]? = some value ∧
        place? format start (number + index) = some slot ∧
          entry = ⟨slot.field, slot.component.mode.adapt value⟩ := by
  induction values generalizing number with
  | nil => simp [fieldValues]
  | cons value rest ih =>
    have later : entry ∈ fieldValues format start (number + 1) rest ↔
        ∃ index other slot, (value :: rest)[index + 1]? = some other ∧
          place? format start (number + (index + 1)) = some slot ∧
            entry = ⟨slot.field, slot.component.mode.adapt other⟩ := by
      rw [ih]
      simp only [List.getElem?_cons_succ, Nat.add_assoc, Nat.add_comm 1]
    constructor
    · intro member
      unfold fieldValues at member
      cases placed : place? format start number with
      | none =>
        rw [placed] at member
        obtain ⟨index, found⟩ := later.mp member
        exact ⟨index + 1, found⟩
      | some slot =>
        rw [placed] at member
        rcases List.mem_cons.mp member with rfl | member
        · exact ⟨0, value, slot, rfl, placed, rfl⟩
        · obtain ⟨index, found⟩ := later.mp member
          exact ⟨index + 1, found⟩
    · rintro ⟨index, other, slot, found, placed, rfl⟩
      unfold fieldValues
      cases index with
      | zero =>
        cases found
        rw [Nat.add_zero] at placed
        rw [placed]
        exact List.mem_cons_self
      | succ index =>
        have member := later.mpr ⟨index, other, slot, found, placed, rfl⟩
        cases place? format start number with
        | none => exact member
        | some first => exact List.mem_cons_of_mem _ member

/-- The values of a write have no bit in common. -/
theorem pairwise_fieldValues (inputs : 0 < format.inputCount) (number : Nat)
    (values : List Value) :
    (fieldValues format start number values).Pairwise FieldValue.Apart := by
  induction values generalizing number with
  | nil => exact .nil
  | cons value rest ih =>
    unfold fieldValues
    cases placed : place? format start number with
    | none => exact ih (number + 1)
    | some slot =>
      refine .cons (fun entry member => FieldValue.apart_of_le ?_) (ih (number + 1))
      obtain ⟨index, other, next, -, behind, rfl⟩ := mem_fieldValues.mp member
      have order := place_order inputs (by omega) placed behind
      exact Nat.le_trans slot.field_end (Nat.mul_le_mul_left 8 order)

private theorem apply_writeValues {number : Nat} {values : List Value} {buffer : Buffer}
    {bytes : Array UInt8}
    (filled : ((fieldValues format start number values).forM FieldValue.store).apply buffer.bytes =
      (.ok ⟨⟩, bytes)) :
    (writeValues format start number values).apply buffer = (.ok ⟨⟩, { buffer with bytes }) := by
  induction values generalizing number buffer with
  | nil =>
    cases filled
    rfl
  | cons value rest ih =>
    unfold fieldValues at filled
    cases placed : place? format start number with
    | none =>
      rw [placed] at filled
      have skipped : (writeValue format start number value).apply buffer = (.ok ⟨⟩, buffer) := by
        rw [writeValue, placed]
        rfl
      rw [writeValues, Edit.apply_bind_of_ok skipped]
      exact ih filled
    | some slot =>
      rw [placed] at filled
      obtain ⟨between, stored, later⟩ := Edit.forM_cons_ok.mp filled
      obtain ⟨legal, wrote⟩ := BitField.store_ok stored
      have written : (⟨8 * slot.position, slot.component.bits⟩ : BitField).writeValue buffer.bytes
          (slot.component.mode.adapt value) = .ok between :=
        (BitField.writeValue_of_hasWidth legal _).trans wrote
      have first : (writeValue format start number value).apply buffer =
          (.ok ⟨⟩, { buffer with bytes := between }) := by
        rw [apply_writeValue placed, written]
      rw [writeValues, Edit.apply_bind_of_ok first]
      have rest : ((fieldValues format start (number + 1) rest).forM FieldValue.store).apply
          { buffer with bytes := between }.bytes = (.ok ⟨⟩, bytes) := later
      exact ih rest

theorem place_within (inputs : 0 < format.inputCount) {number elements : Nat}
    (bound : number < format.inputCount * elements) {slot : Format.Slot}
    (placed : place? format start number = some slot) :
    start ≤ slot.position ∧
      slot.position + bytesFor slot.component.bits ≤ start + elements * format.size := by
  obtain ⟨found, member, same⟩ := exists_slot inputs start number
  cases same.symm.trans placed
  have inside := Format.slot_end (List.mem_of_getElem? member)
  have row : number / format.inputCount < elements :=
    (Nat.div_lt_iff_lt_mul inputs).mpr (Nat.mul_comm _ _ ▸ bound)
  have ends := Nat.mul_le_mul_right format.size (Nat.succ_le_of_lt row)
  rw [Nat.succ_mul] at ends
  dsimp only
  omega

/-- What a write of values that make up whole elements leaves of a buffer. -/
structure Written (format : Format) (values : List Value) (offset : Nat) (before after : Buffer) :
    Prop where
  kept : after = { before with
    elementCount :=
      max before.elementCount (offset / format.size + values.length / format.inputCount)
    bytes := after.bytes }
  fitted : after.Fitted
  stored : ∀ element < values.length / format.inputCount, ∀ index slot,
    format.slots[index]? = some slot →
      ∃ value, values[element * format.inputCount + index]? = some value ∧
        ∀ bit < slot.component.bits,
          bitAt after.bytes (8 * (offset + element * format.size + slot.position) + bit) =
            (slot.component.pattern value).testBit bit
  unused : ∀ element < values.length / format.inputCount, ∀ place < 8 * format.size,
    (∀ slot ∈ format.slots, ¬slot.field.Covers place) →
      bitAt after.bytes (8 * (offset + element * format.size) + place) = false
  others : ∀ index, index < offset ∨
      offset + values.length / format.inputCount * format.size ≤ index →
    after.bytes.getD index 0 = before.bytes.getD index 0

section Written

variable {values : List Value} {elements : Nat} {bytes after : Array UInt8}

/-- The fields of whole elements are filled where their components are encodable and the bytes reach
to their end. -/
theorem exists_filled_elements (inputs : 0 < format.inputCount)
    (whole : values.length = format.inputCount * elements)
    (encodable : ∀ slot ∈ format.slots, slot.component.Encodable)
    (room : start + elements * format.size ≤ bytes.size) :
    ∃ after, ((fieldValues format start 0 values).forM FieldValue.store).apply bytes =
        (.ok ⟨⟩, after) ∧
      FieldValue.Filled (fieldValues format start 0 values) bytes after := by
  refine FieldValue.exists_filled (pairwise_fieldValues inputs 0 values) fun entry member => ?_
  obtain ⟨index, value, slot, found, placed, rfl⟩ := mem_fieldValues.mp member
  obtain ⟨bound, -⟩ := List.getElem?_eq_some_iff.mp found
  rw [Nat.zero_add] at placed
  have inside := (place_within inputs (whole ▸ bound) placed).2
  obtain ⟨original, there, same⟩ := exists_slot inputs start index
  cases same.symm.trans placed
  refine BitField.store_succeeds_iff.mpr
    ⟨(encodable original (List.mem_of_getElem? there)).hasWidth value, ?_⟩
  rw [Format.Slot.span_field, Format.Slot.firstByte_field]
  omega

private theorem stored_of_filled (inputs : 0 < format.inputCount)
    (whole : values.length = format.inputCount * elements)
    (filled : FieldValue.Filled (fieldValues format start 0 values) bytes after) {element : Nat}
    (bound : element < elements) {index : Nat} {slot : Format.Slot}
    (found : format.slots[index]? = some slot) :
    ∃ value, values[element * format.inputCount + index]? = some value ∧
      ∀ bit < slot.component.bits,
        bitAt after (8 * (start + element * format.size + slot.position) + bit) =
          (slot.component.pattern value).testBit bit := by
  have column : index < format.inputCount := by
    obtain ⟨bound, -⟩ := List.getElem?_eq_some_iff.mp found
    rwa [Format.length_slots] at bound
  have number : element * format.inputCount + index < values.length := by
    have rows := Nat.mul_le_mul_right format.inputCount (Nat.succ_le_of_lt bound)
    rw [Nat.succ_mul, Nat.mul_comm elements, ← whole] at rows
    omega
  have value := List.getElem?_eq_getElem number
  have placed : place? format start (element * format.inputCount + index) =
      some { slot with position := start + element * format.size + slot.position } :=
    place?_element inputs found
  rw [← Nat.zero_add (element * format.inputCount + index)] at placed
  have member := mem_fieldValues.mpr ⟨_, _, _, value, placed, rfl⟩
  refine ⟨_, value, fun bit inside => ?_⟩
  refine (filled.inside _ member _
    ⟨Nat.le_add_right _ bit, Nat.add_lt_add_left inside _⟩).trans ?_
  rw [Nat.add_sub_cancel_left]
  rfl

private theorem uncovered_of_unused (inputs : 0 < format.inputCount) {element place : Nat}
    (inside : place < 8 * format.size)
    (unused : ∀ slot ∈ format.slots, ¬slot.field.Covers place) :
    ∀ entry ∈ fieldValues format start 0 values,
      ¬entry.field.Covers (8 * (start + element * format.size) + place) := by
  intro entry member covers
  obtain ⟨index, value, slot, -, placed, rfl⟩ := mem_fieldValues.mp member
  obtain ⟨original, there, same⟩ := exists_slot inputs start (0 + index)
  cases same.symm.trans placed
  generalize (0 + index) / format.inputCount = other at covers
  have known := List.mem_of_getElem? there
  have ends := Format.slot_end known
  have width := original.field_end
  obtain ⟨low, high⟩ := covers
  unfold Format.Slot.field at low high width
  dsimp only at low high width
  -- The value is in the same element, since it begins and ends within it.
  have row : other = element := by
    have left : other * format.size < (element + 1) * format.size := by
      rw [Nat.succ_mul]
      omega
    have right : element * format.size < (other + 1) * format.size := by
      rw [Nat.succ_mul]
      omega
    have first := Nat.lt_of_mul_lt_mul_right left
    have second := Nat.lt_of_mul_lt_mul_right right
    omega
  subst row
  refine unused original known ⟨?_, ?_⟩ <;> unfold Format.Slot.field <;> dsimp only <;> omega

private theorem uncovered_of_outside (inputs : 0 < format.inputCount)
    (whole : values.length = format.inputCount * elements) {place : Nat}
    (outside : place < 8 * start ∨ 8 * (start + elements * format.size) ≤ place) :
    ∀ entry ∈ fieldValues format start 0 values, ¬entry.field.Covers place := by
  intro entry member covers
  obtain ⟨index, value, slot, found, placed, rfl⟩ := mem_fieldValues.mp member
  obtain ⟨bound, -⟩ := List.getElem?_eq_some_iff.mp found
  rw [Nat.zero_add] at placed
  have inside := place_within inputs (whole ▸ bound) placed
  have width := slot.field_end
  obtain ⟨low, high⟩ := covers
  unfold Format.Slot.field at low high width
  dsimp only at low high width
  omega

/-- Values that make up whole elements are written into the buffer that has them, after it has been
cleared there. -/
theorem apply_setDataAt_elements {buffer : Buffer} (present : buffer.format = some format)
    (filled : 0 < format.size) (inputs : 0 < format.inputCount)
    (whole : values.length = format.inputCount * elements) :
    (setDataAt values start).apply buffer =
      (writeValues format start 0 values).apply
        (({ buffer with
          elementCount :=
            max buffer.elementCount (start / format.size + elements) } : Buffer).cleared
          start (elements * format.size)) := by
  have rows : values.length / format.inputCount = elements := by
    rw [whole, Nat.mul_div_cancel_left _ inputs]
  have count : format.countHolding buffer.elementCount start values.length =
      max buffer.elementCount (start / format.size + elements) := by
    rw [whole]
    exact Format.countHolding_elements inputs _ _ _
  have enough : ¬max buffer.elementCount (start / format.size + elements) * format.inputCount <
      values.length := by
    rw [whole, Nat.mul_comm format.inputCount]
    exact Nat.not_lt.mpr (Nat.mul_le_mul_right _
      (Nat.le_trans (Nat.le_add_left _ _) (Nat.le_max_right _ _)))
  rw [apply_setDataAt present filled inputs, apply_overwrite, grown, count, if_neg enough]
  dsimp only
  rw [rows]

private theorem bitAt_cleared {buffer : Buffer} (fitted : buffer.Fitted) {count : Nat}
    (more : buffer.elementCount ≤ count) (start cleared place : Nat) :
    bitAt (({ buffer with elementCount := count } : Buffer).cleared start cleared).bytes place =
      if 8 * start ≤ place ∧ place < 8 * (start + cleared) then false
      else bitAt buffer.bytes place := by
  have longer : buffer.bytes.size ≤ ({ buffer with elementCount := count } : Buffer).size := by
    rw [show buffer.bytes.size = buffer.size from fitted]
    exact Nat.mul_le_mul_right _ more
  rw [← bitAt_resizeBytes_of_le longer place]
  exact bitAt_zeroBytes _ _ _ _

end Written

/-- Values that make up whole elements of encodable components are written at the start of an
element. The buffer grows to their end, each component has its value, all bits between the
components are zero, and all other bytes are the old ones, or zeros behind the old end. -/
theorem setDataAt_exact {buffer : Buffer} {format : Format} (fitted : buffer.Fitted)
    (present : buffer.format = some format) (filled : 0 < format.size)
    (inputs : 0 < format.inputCount)
    (encodable : ∀ slot ∈ format.slots, slot.component.Encodable) {values : List Value}
    {offset : Nat} (aligned : format.size ∣ offset) (whole : format.inputCount ∣ values.length) :
    ∃ after, (setDataAt values offset).apply buffer = (.ok ⟨⟩, after) ∧
      Written format values offset buffer after := by
  obtain ⟨elements, whole⟩ := whole
  have rows : values.length / format.inputCount = elements := by
    rw [whole, Nat.mul_div_cancel_left _ inputs]
  let count := max buffer.elementCount (offset / format.size + elements)
  let counted : Buffer := { buffer with elementCount := count }
  let base := counted.cleared offset (elements * format.size)
  have counted_size : counted.size = count * format.size := size_of_format present
  have size : base.bytes.size = count * format.size :=
    (size_zeroBytes _ _ _).trans ((size_resizeBytes _ _).trans counted_size)
  have room : offset + elements * format.size ≤ base.bytes.size := by
    calc offset + elements * format.size
        = (offset / format.size + elements) * format.size := by
          rw [Nat.add_mul, Nat.div_mul_cancel aligned]
      _ ≤ count * format.size := Nat.mul_le_mul_right _ (Nat.le_max_right _ _)
      _ = base.bytes.size := size.symm
  have cleared (place : Nat) : bitAt base.bytes place =
      if 8 * offset ≤ place ∧ place < 8 * (offset + elements * format.size) then false
      else bitAt buffer.bytes place :=
    bitAt_cleared fitted (Nat.le_max_left _ _) _ _ place
  obtain ⟨bytes, ran, stored⟩ := exists_filled_elements inputs whole encodable room
  have done := (apply_setDataAt_elements present filled inputs whole).trans (apply_writeValues ran)
  refine ⟨_, done, ?_, ?_, ?_, ?_, ?_⟩
  · rw [rows]
    rfl
  · exact stored.size.trans (size.trans counted_size.symm)
  · intro element bound index slot found
    exact stored_of_filled inputs whole stored (rows ▸ bound) found
  · intro element bound place inside unused
    rw [stored.outside _ (uncovered_of_unused inputs inside unused), cleared, if_pos]
    have ends := Nat.mul_le_mul_right format.size (Nat.succ_le_of_lt bound)
    rw [Nat.succ_mul, rows] at ends
    omega
  · intro index outside
    rw [rows] at outside
    refine getD_eq_of_bitAt fun place inside => ?_
    have apart : 8 * index + place < 8 * offset ∨
        8 * (offset + elements * format.size) ≤ 8 * index + place := by omega
    rw [stored.outside _ (uncovered_of_outside inputs whole apart), cleared, if_neg]
    omega

/-- Three floats behind a first element of three make a second one, with four bytes of padding. -/
theorem setDataAt_exact_vector :
    let format : Format := { type := .number { mode := .signedFloat, bits := 32, rows := 3 } }
    let buffer : Buffer :=
      { name := "points"
        format := some format
        elementCount := 1
        bytes := Array.replicate 16 0xff }
    let values : List Value := [.integer 1, .double .one, .integer 2]
    format.size = 16 ∧ format.inputCount = 3 ∧
      ∃ after, (setDataAt values 16).apply buffer = (.ok ⟨⟩, after) ∧ after.elementCount = 2 ∧
        Written format values 16 buffer after := by
  intro format buffer values
  have fitted : buffer.Fitted := rfl
  have present : buffer.format = some format := rfl
  have encodable : ∀ slot ∈ format.slots, slot.component.Encodable := by decide
  have aligned : format.size ∣ 16 := by decide
  have whole : format.inputCount ∣ values.length := by decide
  obtain ⟨after, done, written⟩ :=
    setDataAt_exact fitted present (by decide) (by decide) encodable aligned whole
  have count : max 1 (16 / format.size + values.length / format.inputCount) = 2 := by decide
  have elements := (congrArg Buffer.elementCount written.kept).trans count
  exact ⟨by decide, by decide, after, done, elements, written⟩

end Buffer

end GpuScript
