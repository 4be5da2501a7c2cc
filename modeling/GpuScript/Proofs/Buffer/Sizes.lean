import GpuScript.Buffer.Contents
import GpuScript.Proofs.Edit

namespace GpuScript

namespace Format

/-- Elements from the front of a buffer to the end of the last whole one that values written at a
byte fill. -/
def filledElements (format : Format) (offset values : Nat) : Nat :=
  let needed := offset / format.size * format.inputCount + values
  if format.isPacked then needed else needed / format.inputCount

/-- The byte behind the last whole element that values written at a byte fill. -/
def filledEnd (format : Format) (offset values : Nat) : Nat :=
  format.filledElements offset values * format.size

/-- Elements of a buffer that has some, after it has grown to hold values written at a byte. -/
def countHolding (format : Format) (count offset values : Nat) : Nat :=
  let held := if format.isPacked then count else count * format.inputCount
  if held < offset / format.size * format.inputCount + values then
    format.filledElements offset values
  else count

end Format

/-- The sizes that a buffer keeps. -/
structure Sizes where
  count : Nat := 0
  recorded : Nat := 0

namespace Sizes

/-- The largest size that a buffer reports whose elements have a stride. -/
def maxSize (sizes : Sizes) (stride : Nat) : Nat :=
  if sizes.recorded ≠ 0 then sizes.recorded else sizes.count * stride

/-- Records a size that the reported one falls short of. -/
def raise (sizes : Sizes) (stride size : Nat) : Sizes :=
  if sizes.maxSize stride < size then { sizes with recorded := size } else sizes

/-- Counts the elements that hold values written at a byte, if they are more. -/
def hold (sizes : Sizes) (format : Format) (offset values : Nat) : Sizes :=
  { sizes with count := format.countHolding sizes.count offset values }

theorem le_maxSize {sizes : Sizes} {stride size : Nat} :
    size ≤ sizes.maxSize stride ↔
      size ≤ sizes.recorded ∨ sizes.recorded = 0 ∧ size ≤ sizes.count * stride := by
  unfold maxSize
  split <;> omega

theorem raise_count (sizes : Sizes) (stride size : Nat) :
    (sizes.raise stride size).count = sizes.count := by
  unfold raise
  split <;> rfl

end Sizes

/-- What a command does to the sizes of its buffer: it declares a number of elements, or records
that values are written at a byte, which push constants then are. -/
inductive SizeChange where
  | declared (count : Nat)
  | wrote (offset values : Nat)
  | pushed (offset values : Nat)
  deriving DecidableEq

namespace SizeChange

def apply (format : Format) : SizeChange → Sizes → Sizes
  | declared count, sizes => { sizes with count }
  | wrote offset values, sizes => sizes.raise format.size (format.filledEnd offset values)
  | pushed offset values, sizes =>
    (sizes.raise format.size (format.filledEnd offset values)).hold format offset values

/-- Values are written, so that the buffer has a format of its own. -/
def isWrite : SizeChange → Bool
  | declared _ => false
  | wrote _ _ | pushed _ _ => true

/-- Values that are written fill elements that begin at a byte. -/
def Aligned (format : Format) : SizeChange → Prop
  | declared _ => True
  | wrote offset values | pushed offset values =>
    0 < format.size ∧ 0 < format.inputCount ∧ offset % format.size = 0 ∧ 0 < values

end SizeChange

namespace Buffer

def sizes (buffer : Buffer) : Sizes := ⟨buffer.elementCount, buffer.recordedSize⟩

theorem maxSize_sizes (buffer : Buffer) : buffer.maxSize = buffer.sizes.maxSize buffer.stride := rfl

/-- The format that a buffer has for good: one that was not picked for want of another. -/
def ownFormat? (buffer : Buffer) : Option Format :=
  if buffer.formatIsDefault then none else buffer.format

theorem ownFormat?_eq_some_iff {buffer : Buffer} {format : Format} :
    buffer.ownFormat? = some format ↔
      buffer.format = some format ∧ buffer.formatIsDefault = false := by
  unfold ownFormat?
  cases buffer.formatIsDefault <;> simp

theorem isSome_ownFormat? (buffer : Buffer) :
    buffer.ownFormat?.isSome = (buffer.format.isSome && !buffer.formatIsDefault) := by
  unfold ownFormat?
  cases buffer.formatIsDefault <;> simp

theorem requireFormat_ok {buffer : Buffer} {format : Format}
    (found : buffer.requireFormat = .ok format) : buffer.format = some format := by
  unfold requireFormat at found
  split at found
  · rename_i present
    cases found
    exact present
  · cases found

theorem shapeOf_ok {buffer : Buffer} {format : Format} {shape : Shape}
    (found : buffer.shapeOf format = .ok shape) :
    shape = ⟨format.size, format.inputCount⟩ ∧ 0 < format.size ∧ 0 < format.inputCount := by
  unfold shapeOf at found
  split at found
  · cases found
  · rename_i filled
    cases found
    rw [not_or] at filled
    exact ⟨rfl, Nat.pos_of_ne_zero filled.1, Nat.pos_of_ne_zero filled.2⟩

/-- Recording a write raises the recorded size to the end of the last whole element. -/
theorem recordSize_ok {values : List Value} {offset : Nat} {buffer after : Buffer}
    (done : (recordSize values offset).apply buffer = (.ok ⟨⟩, after)) :
    ∃ format, buffer.format = some format ∧ 0 < format.size ∧ 0 < format.inputCount ∧
      after.format = some format ∧ after.formatIsDefault = buffer.formatIsDefault ∧
      after.sizes = buffer.sizes.raise format.size (format.filledEnd offset values.length) := by
  unfold recordSize at done
  rw [Edit.apply_bind_of_ok (Edit.apply_get buffer)] at done
  obtain ⟨format, found, done⟩ := Edit.bind_ofExcept_ok done
  rw [Edit.apply_bind_of_ok (Edit.apply_get buffer)] at done
  obtain ⟨shape, shaped, done⟩ := Edit.bind_ofExcept_ok done
  rw [Edit.apply_bind_of_ok (Edit.apply_get buffer)] at done
  have present := requireFormat_ok found
  obtain ⟨rfl, bytes, inputs⟩ := shapeOf_ok shaped
  have stride : buffer.maxSize = buffer.sizes.maxSize format.size := by
    rw [maxSize_sizes, Buffer.stride, present]
    rfl
  change (if buffer.maxSize < format.filledEnd offset values.length then _ else _ :
    Edit Buffer Unit).apply buffer = _ at done
  rw [stride] at done
  refine ⟨format, present, bytes, inputs, ?_⟩
  by_cases short : buffer.sizes.maxSize format.size < format.filledEnd offset values.length
  · rw [if_pos short] at done
    cases done
    exact ⟨present, rfl, (if_pos short).symm⟩
  · rw [if_neg short] at done
    cases done
    exact ⟨present, rfl, (if_neg short).symm⟩

theorem writeValues_keeps (format : Format) (start number : Nat) (values : List Value)
    (buffer : Buffer) :
    ∃ bytes, ((writeValues format start number values).apply buffer).2 =
      { buffer with bytes } := by
  induction values generalizing number buffer with
  | nil => exact ⟨buffer.bytes, rfl⟩
  | cons value values ih =>
    have one : ∃ bytes, ((writeValue format start number value).apply buffer).2 =
        { buffer with bytes } := by
      unfold writeValue
      split
      · exact ⟨buffer.bytes, rfl⟩
      · rw [Edit.apply_bind_of_ok (Edit.apply_get buffer), Edit.apply_bind, Edit.apply_ofExcept]
        split <;> rename_i found <;> obtain ⟨-, rfl⟩ := Prod.mk.inj found
        · exact ⟨_, rfl⟩
        · exact ⟨buffer.bytes, rfl⟩
    rw [writeValues, Edit.apply_bind]
    obtain ⟨bytes, kept⟩ := one
    split <;> rename_i found <;> rw [found] at kept
    · subst kept
      obtain ⟨later, same⟩ := ih (number + 1) { buffer with bytes }
      exact ⟨later, same⟩
    · exact ⟨bytes, kept⟩

private theorem countFor_ok {buffer : Buffer} {format : Format} {needed count : Nat}
    (present : buffer.format = some format) (found : buffer.countFor needed = .ok count) :
    count = if format.isPacked then needed else needed / format.inputCount := by
  unfold countFor at found
  rw [present] at found
  dsimp only at found
  split at found
  · rename_i packed
    cases found
    rw [if_pos packed]
  · rename_i packed
    rw [if_neg packed]
    cases shaped : buffer.shapeOf format with
    | error => rw [shaped] at found; cases found
    | ok shape =>
      rw [shaped] at found
      obtain ⟨rfl, -, -⟩ := shapeOf_ok shaped
      cases found
      rfl

theorem overwrite_ok {format : Format} {shape : Shape} {values : List Value} {offset : Nat}
    {buffer after : Buffer}
    (done : (overwrite format shape values offset).apply buffer = (.ok ⟨⟩, after)) :
    ∃ bytes, after = { buffer with bytes } := by
  unfold overwrite at done
  rw [Edit.apply_bind_of_ok (Edit.apply_modify _ _), Edit.apply_bind_of_ok (Edit.apply_modify _ _),
    Edit.apply_bind_of_ok (Edit.apply_get _)] at done
  dsimp only at done
  split at done
  · cases done
  · obtain ⟨bytes, kept⟩ := writeValues_keeps format offset 0 values _
    rw [done] at kept
    exact ⟨bytes, kept⟩

theorem setDataAt_ok {values : List Value} {offset : Nat} {buffer after : Buffer}
    (done : (setDataAt values offset).apply buffer = (.ok ⟨⟩, after)) :
    ∃ format, buffer.format = some format ∧ after.format = some format ∧
      after.formatIsDefault = buffer.formatIsDefault ∧
      after.sizes = buffer.sizes.hold format offset values.length := by
  unfold setDataAt at done
  rw [Edit.apply_bind_of_ok (Edit.apply_get buffer)] at done
  obtain ⟨format, found, done⟩ := Edit.bind_ofExcept_ok done
  rw [Edit.apply_bind_of_ok (Edit.apply_get buffer)] at done
  obtain ⟨shape, shaped, done⟩ := Edit.bind_ofExcept_ok done
  rw [Edit.apply_bind_of_ok (Edit.apply_get buffer)] at done
  have present := requireFormat_ok found
  obtain ⟨rfl, -, -⟩ := shapeOf_ok shaped
  refine ⟨format, present, ?_⟩
  have held : (buffer.sizes.hold format offset values.length).count =
      if buffer.valueCount < offset / format.size * format.inputCount + values.length then
        format.filledElements offset values.length
      else buffer.elementCount := by
    rw [valueCount, present]
    rfl
  dsimp only at done
  split at done
  · rename_i short
    obtain ⟨_, between, sized, done⟩ := Edit.bind_ok.mp done
    unfold setValueCount at sized
    rw [Edit.apply_bind_of_ok (Edit.apply_get buffer)] at sized
    obtain ⟨count, counted, sized⟩ := Edit.bind_ofExcept_ok sized
    obtain ⟨-, rfl⟩ := Prod.mk.inj sized
    obtain ⟨bytes, rfl⟩ := overwrite_ok done
    have elements : count = format.filledElements offset values.length :=
      countFor_ok present counted
    have counted := elements.trans (held.trans (if_pos short)).symm
    exact ⟨present, rfl, congrArg (Sizes.mk · buffer.recordedSize) counted⟩
  · rename_i short
    obtain ⟨bytes, rfl⟩ := overwrite_ok done
    have kept := (held.trans (if_neg short)).symm
    exact ⟨present, rfl, congrArg (Sizes.mk · buffer.recordedSize) kept⟩

end Buffer

end GpuScript
