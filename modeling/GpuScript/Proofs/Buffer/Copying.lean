import GpuScript.Proofs.Buffer.Equality
import GpuScript.Proofs.Buffer.Layers

/-! Contents that come from another buffer. Bytes that are put at a position make the buffer grow to
their end, and its elements are counted anew; it has the bytes of its elements again unless it has
grown to a position within an element. A copy of all bytes takes over no format, so that it is equal
to its source exactly if the two had the same one. -/
namespace GpuScript

namespace ByteWrite

variable {write : ByteWrite} {index : Nat}

private theorem byte?_add : write.byte? (write.offset + index) = write.bytes[index]? := by
  rw [byte?, if_pos (Nat.le_add_right _ _), Nat.add_sub_cancel_left]

private theorem byte?_of_apart (apart : index < write.offset ∨ write.reach ≤ index) :
    write.byte? index = none := by
  unfold byte?
  unfold reach at apart
  split
  · exact Array.getElem?_eq_none (by omega)
  · rfl

end ByteWrite

namespace Buffer

def pasted (buffer source : Buffer) (offset stride : Nat) : Buffer :=
  let write : ByteWrite := ⟨offset, source.bytes⟩
  { buffer with
    elementCount := max buffer.bytes.size write.reach / stride
    bytes := write.onto buffer.bytes }

/-- The one thing that can fail is to find the shape of an element. -/
theorem apply_pasteFrom_eq {buffer : Buffer} {format : Format}
    (present : buffer.format = some format) (source : Buffer) (offset : Nat) :
    (pasteFrom source offset).apply buffer =
      match buffer.shapeOf format with
      | .ok shape => (.ok ⟨⟩, buffer.pasted source offset shape.size)
      | .error fault => (.error fault, buffer) := by
  rw [pasteFrom, Edit.apply_bind_of_ok (Edit.apply_get buffer), requireFormat_of_format present,
    Edit.apply_bind_of_ok (Edit.apply_ofExcept _ _), Edit.apply_bind_of_ok (Edit.apply_get buffer)]
  cases buffer.shapeOf format with
  | error fault => rw [Edit.apply_bind_of_error (Edit.apply_ofExcept _ _)]
  | ok shape =>
    rw [Edit.apply_bind_of_ok (Edit.apply_ofExcept _ _), Edit.apply_modify]
    dsimp only
    rw [size_resizeBytes]
    rfl

theorem apply_pasteFrom {buffer : Buffer} {format : Format} (present : buffer.format = some format)
    (bytes : 0 < format.size) (inputs : 0 < format.inputCount) (source : Buffer) (offset : Nat) :
    (pasteFrom source offset).apply buffer =
      (.ok ⟨⟩, buffer.pasted source offset format.size) := by
  rw [apply_pasteFrom_eq present, shapeOf_of_pos bytes inputs]

private theorem apply_pasteFrom_of_inputCount {buffer : Buffer} {format : Format}
    (present : buffer.format = some format) (inputs : format.inputCount = 0) (source : Buffer)
    (offset : Nat) :
    (pasteFrom source offset).apply buffer =
      (.error (.buffer (.noComponents buffer.name)), buffer) := by
  have shape : buffer.shapeOf format = .error (.buffer (.noComponents buffer.name)) :=
    if_pos (.inr inputs)
  rw [apply_pasteFrom_eq present, shape]

/-- What putting the bytes of another buffer at a position leaves of a buffer. -/
structure Pasted (source : Buffer) (offset : Nat) (before after : Buffer) : Prop where
  kept : after = { before with elementCount := after.elementCount, bytes := after.bytes }
  grown : after.bytes.size = max before.bytes.size (offset + source.bytes.size)
  taken : ∀ index < source.bytes.size, after.bytes[offset + index]? = source.bytes[index]?
  others : ∀ index < after.bytes.size, index < offset ∨ offset + source.bytes.size ≤ index →
    after.bytes[index]? = some ((before.bytes[index]?).getD 0)
  counted : before.elementCount ≤ after.elementCount

variable {buffer source : Buffer} {offset : Nat}

private theorem pasted_pasted {stride : Nat} (sized : 0 < stride)
    (held : buffer.elementCount * stride ≤ buffer.bytes.size) :
    Pasted source offset buffer (buffer.pasted source offset stride) := by
  let write : ByteWrite := ⟨offset, source.bytes⟩
  have size : (write.onto buffer.bytes).size =
      max buffer.bytes.size (offset + source.bytes.size) := write.size_onto buffer.bytes
  refine ⟨rfl, size, fun index inside => ?_, fun index inside apart => ?_, ?_⟩
  · change (write.onto buffer.bytes)[write.offset + index]? = write.bytes[index]?
    have bound : write.offset + index < max buffer.bytes.size write.reach :=
      Nat.lt_of_lt_of_le (Nat.add_lt_add_left inside offset) (Nat.le_max_right _ _)
    have known : write.bytes[index]? = some write.bytes[index] := Array.getElem?_eq_getElem inside
    rw [ByteWrite.getElem?_onto, if_pos bound, ByteWrite.byte?_add, known]
    rfl
  · change (write.onto buffer.bytes)[index]? = some _
    rw [ByteWrite.getElem?_onto, if_pos (size ▸ inside), ByteWrite.byte?_of_apart apart]
    rfl
  · exact (Nat.le_div_iff_mul_le sized).mpr (Nat.le_trans held (Nat.le_max_left _ _))

/-- The buffer has the bytes of its elements again if it has not grown, or has grown to the end of
an element. -/
theorem fitted_pasted_iff {format : Format} (present : buffer.format = some format)
    (fitted : buffer.Fitted) :
    (buffer.pasted source offset format.size).Fitted ↔
      format.size ∣ offset + source.bytes.size ∨
        offset + source.bytes.size ≤ buffer.bytes.size := by
  have whole : format.size ∣ buffer.bytes.size := by
    rw [fitted, size_of_format present]
    exact Nat.dvd_mul_left _ _
  have grown : (buffer.pasted source offset format.size).Fitted ↔
      format.size ∣ max buffer.bytes.size (offset + source.bytes.size) := by
    have kept : (buffer.pasted source offset format.size).format = some format := present
    rw [Fitted, size_of_format kept, pasted, ByteWrite.size_onto, Nat.dvd_iff_div_mul_eq]
    exact eq_comm
  rw [grown]
  rcases Nat.le_total (offset + source.bytes.size) buffer.bytes.size with inside | outside
  · rw [Nat.max_eq_left inside]
    exact iff_of_true whole (.inr inside)
  · rw [Nat.max_eq_right outside]
    constructor
    · exact .inl
    · rintro (ends | inside)
      · exact ends
      · rw [Nat.le_antisymm inside outside]
        exact whole

/-- The bytes of another buffer can be put into every buffer whose elements take values. They stand
at their position then, all other bytes are the old ones or zeros behind the old end, and no element
is lost. The buffer has exactly the bytes of its elements again if the bytes end with an element or
within the old ones; if not, those of the last element are incomplete and it is not counted. -/
theorem pasteFrom_exact_iff {buffer : Buffer} {format : Format}
    (present : buffer.format = some format) (sized : 0 < format.size) (fitted : buffer.Fitted)
    (source : Buffer) (offset : Nat) :
    ((pasteFrom source offset).Succeeds buffer ↔ 0 < format.inputCount) ∧
      ∀ after, (pasteFrom source offset).apply buffer = (.ok ⟨⟩, after) →
        Pasted source offset buffer after ∧ after.elementCount = after.bytes.size / format.size ∧
          (after.Fitted ↔
            format.size ∣ offset + source.bytes.size ∨
              offset + source.bytes.size ≤ buffer.bytes.size) := by
  rcases Nat.eq_zero_or_pos format.inputCount with none | inputs
  · have refused := apply_pasteFrom_of_inputCount present none source offset
    refine ⟨iff_of_false ?_ (by omega), fun after done => nomatch refused.symm.trans done⟩
    rintro ⟨result, after, done⟩
    cases refused.symm.trans done
  · have done := apply_pasteFrom present sized inputs source offset
    refine ⟨iff_of_true ⟨_, _, done⟩ inputs, fun after same => ?_⟩
    obtain rfl : buffer.pasted source offset format.size = after :=
      (Prod.mk.inj (done.symm.trans same)).2
    have held : buffer.elementCount * format.size ≤ buffer.bytes.size :=
      Nat.le_of_eq (fitted.trans (size_of_format present)).symm
    refine ⟨pasted_pasted sized held, ?_, fitted_pasted_iff present fitted⟩
    exact congrArg (· / format.size) (ByteWrite.size_onto _ _).symm

/-- Two bytes are put over the end of a buffer of one word, which is one byte longer then and has
still one element; put in front they do not reach the end. -/
theorem pasteFrom_exact_iff_word :
    let word : Format := { type := .number { mode := .unsignedInt, bits := 32 } }
    let byte : Format := { type := .number { mode := .unsignedInt, bits := 8 } }
    let buffer : Buffer :=
      { name := "words", format := some word, elementCount := 1, bytes := #[1, 2, 3, 4] }
    let source : Buffer :=
      { name := "bytes", format := some byte, elementCount := 2, bytes := #[8, 9] }
    buffer.format = some word ∧ 0 < word.size ∧ buffer.Fitted ∧
      (∃ after, (pasteFrom source 3).apply buffer = (.ok ⟨⟩, after) ∧
        Pasted source 3 buffer after ∧ after.bytes = #[1, 2, 3, 8, 9] ∧ ¬after.Fitted) ∧
      ∃ after, (pasteFrom source 1).apply buffer = (.ok ⟨⟩, after) ∧
        Pasted source 1 buffer after ∧ after.bytes = #[1, 8, 9, 4] ∧ after.Fitted := by
  intro word byte buffer source
  have fitted : buffer.Fitted := rfl
  have exact (offset : Nat) :=
    @pasteFrom_exact_iff buffer word rfl (by decide) fitted source offset
  refine ⟨rfl, by decide, fitted, ⟨_, rfl, ?_⟩, ⟨_, rfl, ?_⟩⟩
  · obtain ⟨pasted, -, whole⟩ := (exact 3).2 _ rfl
    exact ⟨pasted, by decide, mt whole.mp (by decide)⟩
  · obtain ⟨pasted, -, whole⟩ := (exact 1).2 _ rfl
    exact ⟨pasted, by decide, whole.mpr (by decide)⟩

/-- A byte put into an empty buffer of words. -/
theorem pasteFrom_partial :
    let word : Format := { type := .number { mode := .unsignedInt, bits := 32 } }
    let byte : Format := { type := .number { mode := .unsignedInt, bits := 8 } }
    let buffer : Buffer := { name := "words", format := some word }
    let source : Buffer :=
      { name := "bytes", format := some byte, elementCount := 1, bytes := #[7] }
    buffer.Fitted ∧
      ∃ after, (pasteFrom source 0).apply buffer = (.ok ⟨⟩, after) ∧ after.bytes.size = 1 ∧
        after.size = 0 ∧ ¬after.Fitted := by
  intro word byte buffer source
  have fitted : buffer.Fitted := rfl
  have done := @apply_pasteFrom buffer word rfl (by decide) (by decide) source 0
  have partialElement : ¬(buffer.pasted source 0 word.size).Fitted :=
    mt (fitted_pasted_iff rfl fitted).mp (by decide)
  exact ⟨fitted, _, done, by decide, by decide, partialElement⟩

/-- Buffers between which all bytes can be copied. -/
def SameExtent (source target : Buffer) : Prop :=
  target.width = source.width ∧ target.height = source.height ∧
    target.elementCount = source.elementCount

theorem copyFrom_ok_iff {source target after : Buffer} :
    (copyFrom source).apply target = (.ok ⟨⟩, after) ↔
      source.SameExtent target ∧ { target with bytes := source.bytes } = after := by
  have copied : (set { target with bytes := source.bytes } : Edit Buffer PUnit).apply target =
      (.ok ⟨⟩, { target with bytes := source.bytes }) := rfl
  rw [copyFrom, Edit.apply_bind_of_ok (Edit.apply_get target), Edit.guard_ok_iff,
    Edit.guard_ok_iff, Edit.guard_ok_iff, copied]
  simp only [ne_eq, Decidable.not_not, Prod.mk.injEq, true_and, SameExtent, and_assoc]

theorem succeeds_copyFrom_iff {source target : Buffer} :
    (copyFrom source).Succeeds target ↔ source.SameExtent target := by
  constructor
  · rintro ⟨result, after, done⟩
    exact (copyFrom_ok_iff.mp done).1
  · exact fun extent => ⟨_, _, copyFrom_ok_iff.mpr ⟨extent, rfl⟩⟩

section Copied

variable {source target : Buffer}

theorem mismatch?_copied_iff (present : source.format.isSome) (extent : source.SameExtent target) :
    source.mismatch? { target with bytes := source.bytes } = none ↔
      target.format = source.format := by
  obtain ⟨width, height, count⟩ := extent
  rw [mismatch?_eq_none_iff]
  exact ⟨fun same => same.2.1, fun format => ⟨present, format, count, width, height⟩⟩

theorem checkEqual_copied_iff (present : source.format.isSome) (extent : source.SameExtent target) :
    source.checkEqual { target with bytes := source.bytes } = .ok ⟨⟩ ↔
      target.format = source.format := by
  have same : ∀ position, ¬source.DiffersAt { target with bytes := source.bytes } position :=
    (bytes_eq_iff.mp rfl).2
  rw [checkEqual_ok_iff, and_iff_left same, checkCompatible_ok_iff,
    mismatch?_copied_iff present extent]

theorem checkEqual_copied_error (other : target.format ≠ source.format) :
    source.checkEqual { target with bytes := source.bytes } =
      .error (.buffer .formatDiffers) := by
  have kept : source.mismatch? { target with bytes := source.bytes } = some .formatDiffers :=
    if_pos (.inr other)
  refine checkEqual_of_incompatible ?_
  rw [checkCompatible, kept]

theorem fitted_copied_iff (fitted : source.Fitted) (extent : source.SameExtent target) :
    Fitted { target with bytes := source.bytes } ↔
      source.elementCount = 0 ∨ target.stride = source.stride := by
  have bytes : source.bytes.size = source.elementCount * source.stride := fitted
  have elements : size { target with bytes := source.bytes } =
      source.elementCount * target.stride := congrArg (· * target.stride) extent.2.2
  rw [Fitted, elements, bytes]
  constructor
  · intro same
    rcases Nat.eq_zero_or_pos source.elementCount with none | some
    · exact .inl none
    · exact .inr (Nat.eq_of_mul_eq_mul_left some same.symm)
  · rintro (none | strides)
    · rw [none, Nat.zero_mul, Nat.zero_mul]
    · rw [strides]

end Copied

/-- All bytes can be copied between two buffers of one extent and element count. Of the other buffer
nothing but its bytes changes. So the two are found equal then exactly if they had one format, and
otherwise the formats are found different; and the copy has the bytes of its elements exactly if
there are none or they have the stride of the source. -/
theorem copyFrom_equal_iff {source : Buffer} (present : source.format.isSome)
    (fitted : source.Fitted) (target : Buffer) :
    ((copyFrom source).Succeeds target ↔ source.SameExtent target) ∧
      ∀ after, (copyFrom source).apply target = (.ok ⟨⟩, after) →
        after = { target with bytes := source.bytes } ∧
          (source.checkEqual after = .ok ⟨⟩ ↔ target.format = source.format) ∧
          (target.format ≠ source.format →
            source.checkEqual after = .error (.buffer .formatDiffers)) ∧
          (after.Fitted ↔ source.elementCount = 0 ∨ target.stride = source.stride) := by
  refine ⟨succeeds_copyFrom_iff, fun after done => ?_⟩
  obtain ⟨extent, rfl⟩ := copyFrom_ok_iff.mp done
  exact ⟨rfl, checkEqual_copied_iff present extent, checkEqual_copied_error,
    fitted_copied_iff fitted extent⟩

/-- A word is copied into a buffer of a word and into one of a byte. -/
theorem copyFrom_equal_iff_word :
    let number (mode : Mode) (bits : Nat) : Format := { type := .number { mode, bits } }
    let buffer (format : Format) (bytes : Array UInt8) : Buffer :=
      { name := "b", format := some format, elementCount := 1, bytes }
    let source := buffer (number .unsignedInt 32) #[1, 2, 3, 4]
    let word := buffer (number .unsignedInt 32) #[5, 6, 7, 8]
    let byte := buffer (number .signedInt 8) #[5]
    source.format.isSome ∧ source.Fitted ∧
      (∃ after, (copyFrom source).apply word = (.ok ⟨⟩, after) ∧
        source.checkEqual after = .ok ⟨⟩ ∧ after.Fitted) ∧
      ∃ after, (copyFrom source).apply byte = (.ok ⟨⟩, after) ∧
        source.checkEqual after = .error (.buffer .formatDiffers) ∧ ¬after.Fitted := by
  intro number buffer source word byte
  have present : source.format.isSome := rfl
  have fitted : source.Fitted := rfl
  refine ⟨present, fitted, ⟨_, rfl, ?_⟩, ⟨_, rfl, ?_⟩⟩
  · obtain ⟨-, equal, -, whole⟩ := (copyFrom_equal_iff present fitted word).2 _ rfl
    exact ⟨equal.mpr rfl, whole.mpr (.inr rfl)⟩
  · obtain ⟨-, -, differ, whole⟩ := (copyFrom_equal_iff present fitted byte).2 _ rfl
    exact ⟨differ (by decide), mt whole.mp (by decide)⟩

/-- A byte is copied into a buffer of a word that has none of its bytes. -/
theorem copyFrom_other_stride :
    let number (bits : Nat) : Format := { type := .number { mode := .unsignedInt, bits } }
    let source : Buffer :=
      { name := "byte", format := some (number 8), elementCount := 1, bytes := #[1] }
    let target : Buffer :=
      { name := "word"
        format := some (number 32)
        elementCount := 1
        bytes := #[0, 0, 0, 0] }
    source.Fitted ∧ target.Fitted ∧
      ∃ after, (copyFrom source).apply target = (.ok ⟨⟩, after) ∧
        source.checkEqual after = .error (.buffer .formatDiffers) ∧ after.bytes.size = 1 ∧
          after.size = 4 := by
  intro number source target
  exact ⟨rfl, rfl, _, rfl, checkEqual_copied_error (by decide), rfl, rfl⟩

end Buffer

end GpuScript
