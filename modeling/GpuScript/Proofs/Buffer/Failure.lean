import GpuScript.Proofs.Buffer.Marks

/-! Operations of buffers that fail. Nearly all of them look before they change anything, so that a
failure leaves the buffer as it was. A write of values sizes the buffer and clears what the values
fill before it counts them and stores them one by one; when it fails after that, the buffer is the
same only where it was already as the write leaves it. -/
namespace GpuScript

namespace Buffer

/-- The operations that size a buffer or put contents into it. -/
inductive Operation where
  | setData (values : List Value)
  | setDataAt (values : List Value) (offset : Nat)
  | setValueCount (values : Nat)
  | recordSize (values : List Value) (offset : Nat)
  | resizeElements (count : Nat)
  | resize (size : Nat)
  | pasteFrom (source : Buffer) (offset : Nat)
  | copyFrom (source : Buffer)

def Operation.edit : Operation → Edit Buffer Unit
  | setData values => Buffer.setData values
  | setDataAt values offset => Buffer.setDataAt values offset
  | setValueCount values => Buffer.setValueCount values
  | recordSize values offset => Buffer.recordSize values offset
  | resizeElements count => Buffer.resizeElements count
  | resize size => Buffer.resize size
  | pasteFrom source offset => Buffer.pasteFrom source offset
  | copyFrom source => Buffer.copyFrom source

section Looking

variable {buffer after : Buffer} {fault : Fault}

private theorem setValueCount_failed {values : Nat}
    (failed : (setValueCount values).apply buffer = (.error fault, after)) : after = buffer := by
  rw [setValueCount, Edit.apply_bind_of_ok (Edit.apply_get buffer)] at failed
  obtain ⟨-, same⟩ | ⟨count, -, failed⟩ := Edit.bind_ofExcept_error failed
  · exact same
  · cases failed

private theorem recordSize_failed {values : List Value} {offset : Nat}
    (failed : (recordSize values offset).apply buffer = (.error fault, after)) :
    after = buffer := by
  rw [recordSize, Edit.apply_bind_of_ok (Edit.apply_get buffer)] at failed
  obtain ⟨-, same⟩ | ⟨format, -, failed⟩ := Edit.bind_ofExcept_error failed
  · exact same
  rw [Edit.apply_bind_of_ok (Edit.apply_get buffer)] at failed
  obtain ⟨-, same⟩ | ⟨shape, -, failed⟩ := Edit.bind_ofExcept_error failed
  · exact same
  rw [Edit.apply_bind_of_ok (Edit.apply_get buffer)] at failed
  split at failed <;> split at failed <;> cases failed

private theorem resizeElements_failed {count : Nat}
    (failed : (resizeElements count).apply buffer = (.error fault, after)) : after = buffer := by
  rw [resizeElements, Edit.apply_bind_of_ok (Edit.apply_get buffer)] at failed
  obtain ⟨-, same⟩ | ⟨format, -, failed⟩ := Edit.bind_ofExcept_error failed
  · exact same
  · cases failed

private theorem resize_failed {size : Nat}
    (failed : (resize size).apply buffer = (.error fault, after)) : after = buffer := by
  rw [resize, Edit.apply_bind_of_ok (Edit.apply_get buffer)] at failed
  obtain ⟨-, same⟩ | ⟨format, -, failed⟩ := Edit.bind_ofExcept_error failed
  · exact same
  rw [Edit.apply_bind_of_ok (Edit.apply_get buffer)] at failed
  obtain ⟨-, same⟩ | ⟨shape, -, failed⟩ := Edit.bind_ofExcept_error failed
  · exact same
  split at failed
  · exact (Prod.mk.inj failed).2.symm
  · cases failed

private theorem pasteFrom_failed {source : Buffer} {offset : Nat}
    (failed : (pasteFrom source offset).apply buffer = (.error fault, after)) :
    after = buffer := by
  rw [pasteFrom, Edit.apply_bind_of_ok (Edit.apply_get buffer)] at failed
  obtain ⟨-, same⟩ | ⟨format, -, failed⟩ := Edit.bind_ofExcept_error failed
  · exact same
  rw [Edit.apply_bind_of_ok (Edit.apply_get buffer)] at failed
  obtain ⟨-, same⟩ | ⟨shape, -, failed⟩ := Edit.bind_ofExcept_error failed
  · exact same
  · cases failed

private theorem copyFrom_failed {source : Buffer}
    (failed : (copyFrom source).apply buffer = (.error fault, after)) : after = buffer := by
  rw [copyFrom, Edit.apply_bind_of_ok (Edit.apply_get buffer)] at failed
  obtain same | failed := Edit.guard_error failed
  · exact same
  obtain same | failed := Edit.guard_error failed
  · exact same
  obtain same | failed := Edit.guard_error failed
  · exact same
  · cases failed

end Looking

/-- The values that a write tries to store: none if the elements cannot hold them all. -/
def tried (format : Format) (count : Nat) (values : List Value) : List Value :=
  if count * format.inputCount < values.length then [] else values

/-- A buffer that is already as a write of values at a byte leaves it: it has elements for them, and
each place that the values would mark has its mark or, if it is only cleared, a zero. -/
structure Settled (buffer : Buffer) (format : Format) (values : List Value) (offset : Nat) :
    Prop where
  count : format.countHolding buffer.elementCount offset values.length = buffer.elementCount
  fitted : buffer.Fitted
  marked : ∀ place bit, mark? format offset buffer.size place 0
    (tried format buffer.elementCount values) = some bit → bitAt buffer.bytes place = bit
  zero : ∀ place, mark? format offset buffer.size place 0
    (tried format buffer.elementCount values) = none → 8 * offset ≤ place →
    place < 8 * (offset + values.length / format.inputCount * format.size) →
    bitAt buffer.bytes place = false

section Writes

variable {buffer : Buffer} {format : Format} {values : List Value} {offset : Nat}

/-- Without a format whose elements have components a write fails and leaves the buffer alone. -/
theorem shaped_or_failed (values : List Value) (offset : Nat) (buffer : Buffer) :
    ((setDataAt values offset).apply buffer).2 = buffer ∨
      ∃ format, buffer.format = some format ∧ 0 < format.size ∧ 0 < format.inputCount := by
  cases present : buffer.format with
  | none =>
    have missing : buffer.requireFormat = .error (.buffer (.needsFormat buffer.name)) := by
      rw [requireFormat, present]
    refine .inl ?_
    rw [setDataAt, Edit.apply_bind_of_ok (Edit.apply_get buffer), Edit.apply_bind,
      Edit.apply_ofExcept, missing]
  | some format =>
    by_cases empty : format.size = 0 ∨ format.inputCount = 0
    · have shapeless : buffer.shapeOf format = .error (.buffer (.noComponents buffer.name)) :=
        if_pos empty
      refine .inl ?_
      rw [setDataAt, Edit.apply_bind_of_ok (Edit.apply_get buffer),
        requireFormat_of_format present, Edit.apply_bind_of_ok (Edit.apply_ofExcept _ _),
        Edit.apply_bind_of_ok (Edit.apply_get buffer), Edit.apply_bind, Edit.apply_ofExcept,
        shapeless]
    · rw [not_or] at empty
      exact .inr ⟨format, rfl, Nat.pos_of_ne_zero empty.1, Nat.pos_of_ne_zero empty.2⟩

theorem apply_overwrite_snd :
    ((overwrite format ⟨format.size, format.inputCount⟩ values offset).apply buffer).2 =
      ((writeValues format offset 0 (tried format buffer.elementCount values)).apply
        (buffer.cleared offset (values.length / format.inputCount * format.size))).2 := by
  rw [apply_overwrite, tried]
  dsimp only
  split <;> rfl

/-- A write into a buffer that need not grow leaves the buffer as it is exactly when the bytes are
those that it leaves. -/
theorem overwrite_unchanged_iff
    (enough : format.countHolding buffer.elementCount offset values.length =
      buffer.elementCount) :
    ((overwrite format ⟨format.size, format.inputCount⟩ values offset).apply buffer).2 =
      buffer ↔ buffer.Settled format values offset := by
  rw [apply_overwrite_snd]
  generalize triedIs : tried format buffer.elementCount values = list
  generalize filledIs : values.length / format.inputCount * format.size = filled
  obtain ⟨size, bits⟩ := bitAt_writeValues format offset 0 list (buffer.cleared offset filled)
  obtain ⟨bytes, kept⟩ := writeValues_keeps format offset 0 list (buffer.cleared offset filled)
  have whole : (buffer.cleared offset filled).bytes.size = buffer.size := by
    rw [cleared, size_zeroBytes, size_resizeBytes]
  rw [kept, whole] at size
  rw [kept, whole] at bits
  rw [kept]
  -- Only the bytes can differ, and they are as many as the buffer has when it is fitted.
  have bytewise : { buffer.cleared offset filled with bytes } = buffer ↔ bytes = buffer.bytes :=
    ⟨congrArg Buffer.bytes, fun same => same ▸ rfl⟩
  rw [bytewise]
  have before (fitted : buffer.Fitted) (place : Nat) :
      bitAt (buffer.cleared offset filled).bytes place =
        if 8 * offset ≤ place ∧ place < 8 * (offset + filled) then false
        else bitAt buffer.bytes place := by
    rw [cleared, bitAt_zeroBytes, ← fitted, resizeBytes_size]
  constructor
  · rintro rfl
    refine ⟨enough, size, fun place bit marked => ?_, fun place unmarked start stop => ?_⟩
    · rw [triedIs] at marked
      rw [bits place, marked, Option.getD_some]
    · rw [triedIs] at unmarked
      rw [filledIs] at stop
      rw [bits place, unmarked, Option.getD_none, before size, if_pos ⟨start, stop⟩]
  · rintro ⟨-, fitted, marked, zero⟩
    rw [triedIs] at marked zero
    rw [filledIs] at zero
    refine eq_of_bitAt (size.trans fitted.symm) fun place => ?_
    rw [bits place]
    cases mark : mark? format offset buffer.size place 0 list with
    | some bit => exact (marked place bit mark).symm
    | none =>
      rw [Option.getD_none, before fitted]
      split
      · rename_i inside
        exact (zero place mark inside.1 inside.2).symm
      · rfl

/-- A write into elements with components leaves as many elements as hold the values, and changes
at most the bytes besides. -/
theorem setDataAt_grows (present : buffer.format = some format) (filled : 0 < format.size)
    (inputs : 0 < format.inputCount) :
    ∃ bytes, ((setDataAt values offset).apply buffer).2 =
      { buffer with
        elementCount := format.countHolding buffer.elementCount offset values.length
        bytes } := by
  rw [apply_setDataAt present filled inputs, apply_overwrite_snd]
  exact writeValues_keeps format offset 0
    (tried format (buffer.grown format offset values.length).elementCount values)
    ((buffer.grown format offset values.length).cleared offset
      (values.length / format.inputCount * format.size))

theorem setDataAt_keeps (values : List Value) (offset : Nat) (buffer : Buffer) :
    ∃ count bytes, ((setDataAt values offset).apply buffer).2 =
      { buffer with elementCount := count, bytes } := by
  rcases shaped_or_failed values offset buffer with failed | ⟨format, present, filled, inputs⟩
  · exact ⟨buffer.elementCount, buffer.bytes, failed⟩
  · exact ⟨_, setDataAt_grows present filled inputs⟩

/-- A write into elements with components leaves a buffer alone exactly when it is settled. -/
theorem setDataAt_unchanged_iff (present : buffer.format = some format) (bytes : 0 < format.size)
    (inputs : 0 < format.inputCount) :
    ((setDataAt values offset).apply buffer).2 = buffer ↔ buffer.Settled format values offset := by
  by_cases enough :
      format.countHolding buffer.elementCount offset values.length = buffer.elementCount
  · have same : buffer.grown format offset values.length = buffer := by
      rw [grown, enough]
    rw [apply_setDataAt present bytes inputs, same]
    exact overwrite_unchanged_iff enough
  · refine iff_of_false (fun same => enough ?_) fun settled => enough settled.count
    obtain ⟨left, grows⟩ := setDataAt_grows present bytes inputs
    exact congrArg Buffer.elementCount (grows.symm.trans same)

end Writes

/-- The buffer has no format whose elements have components, or it is already as the operation
leaves it; operations that look first need nothing. -/
def Operation.Settled (buffer : Buffer) : Operation → Prop
  | setData values => ∀ format, buffer.format = some format → 0 < format.size →
    0 < format.inputCount → buffer.Settled format values 0
  | setDataAt values offset => ∀ format, buffer.format = some format → 0 < format.size →
    0 < format.inputCount → buffer.Settled format values offset
  | _ => True

theorem write_unchanged_iff {buffer : Buffer} {values : List Value} {offset : Nat} :
    ((setDataAt values offset).apply buffer).2 = buffer ↔
      (Operation.setDataAt values offset).Settled buffer := by
  constructor
  · intro same format present bytes inputs
    exact (setDataAt_unchanged_iff present bytes inputs).mp same
  · intro settled
    rcases shaped_or_failed values offset buffer with same | ⟨format, present, bytes, inputs⟩
    · exact same
    · exact (setDataAt_unchanged_iff present bytes inputs).mpr
        (settled format present bytes inputs)

/-- An operation that fails changes at most the bytes and the number of elements. It leaves the
buffer alone, unless it is a write into elements with components that finds the buffer otherwise
than it leaves it. -/
theorem Operation.unchanged_iff {operation : Operation} {buffer after : Buffer} {fault : Fault}
    (failed : operation.edit.apply buffer = (.error fault, after)) :
    after = { buffer with elementCount := after.elementCount, bytes := after.bytes } ∧
      (after = buffer ↔ operation.Settled buffer) := by
  have spared (same : after = buffer) :
      after = { buffer with elementCount := after.elementCount, bytes := after.bytes } ∧
        (after = buffer ↔ True) := ⟨same ▸ rfl, iff_true_intro same⟩
  have wrote {values : List Value} {offset : Nat}
      (same : ((Buffer.setDataAt values offset).apply buffer).2 = after) :
      after = { buffer with elementCount := after.elementCount, bytes := after.bytes } ∧
        (after = buffer ↔ (setDataAt values offset).Settled buffer) := by
    obtain ⟨count, bytes, kept⟩ := setDataAt_keeps values offset buffer
    refine ⟨?_, same ▸ write_unchanged_iff⟩
    rw [← same, kept]
  cases operation with
  | setData values => exact wrote (congrArg Prod.snd failed)
  | setDataAt values offset => exact wrote (congrArg Prod.snd failed)
  | setValueCount values => exact spared (setValueCount_failed failed)
  | recordSize values offset => exact spared (recordSize_failed failed)
  | resizeElements count => exact spared (resizeElements_failed failed)
  | resize size => exact spared (resize_failed failed)
  | pasteFrom source offset => exact spared (pasteFrom_failed failed)
  | copyFrom source => exact spared (copyFrom_failed failed)

/-- One number is no pair, and its failure leaves an empty buffer of pairs alone. -/
theorem Operation.unchanged_iff_empty :
    let pairs : Format := { type := .number { mode := .unsignedInt, bits := 8, rows := 2 } }
    let buffer : Buffer := { name := "pairs", format := some pairs }
    (setData [.integer 1]).edit.apply buffer = (.error (.buffer .tooManyValues), buffer) ∧
      (setData [.integer 1]).Settled buffer :=
  ⟨rfl, (unchanged_iff rfl).2.mp rfl⟩

/-- Three numbers are a pair and more, and their failure leaves a pair of zeros. -/
theorem Operation.setData_changed :
    let pairs : Format := { type := .number { mode := .unsignedInt, bits := 8, rows := 2 } }
    let buffer : Buffer := { name := "pairs", format := some pairs }
    (setData [.integer 1, .integer 2, .integer 3]).edit.apply buffer =
      (.error (.buffer .tooManyValues), { buffer with elementCount := 1, bytes := #[0, 0] }) := rfl

end Buffer

end GpuScript
