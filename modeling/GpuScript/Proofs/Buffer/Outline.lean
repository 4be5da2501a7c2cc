import GpuScript.Pipeline.Kernel
import GpuScript.Proofs.Buffer.Sizes

namespace GpuScript

namespace Buffer

/-- A buffer without its contents and the counts of them. -/
def outline (buffer : Buffer) : Buffer :=
  { buffer with elementCount := 0, recordedSize := 0, bytes := #[] }

/-- An edit that changes the contents of a buffer and the counts of them at most. -/
def Fills {Result : Type} (operation : Edit Buffer Result) : Prop :=
  ∀ outline, Edit.Maintains (fun buffer => buffer.outline = outline) operation

variable {Result Next : Type}

theorem Fills.outline {operation : Edit Buffer Result} (fills : Fills operation)
    (buffer : Buffer) : (operation.apply buffer).2.outline = buffer.outline :=
  fills buffer.outline buffer rfl

theorem Fills.name {operation : Edit Buffer Result} (fills : Fills operation) (buffer : Buffer) :
    (operation.apply buffer).2.name = buffer.name := by
  have kept := congrArg Buffer.name (fills.outline buffer)
  exact kept

theorem Fills.bind {first : Edit Buffer Result} {next : Result → Edit Buffer Next}
    (left : Fills first) (right : ∀ result, Fills (next result)) : Fills (first >>= next) :=
  fun outline => Edit.maintains_bind (left outline) fun result => right result outline

theorem Fills.onBuffer {next : Buffer → Edit Buffer Next} (rest : ∀ buffer, Fills (next buffer)) :
    Fills (get >>= next) :=
  fun outline => Edit.maintains_get_bind fun buffer _ => rest buffer outline

theorem Fills.ofExcept (outcome : Except Fault Result) :
    Fills (Edit.ofExcept outcome : Edit Buffer Result) :=
  fun _ => Edit.maintains_ofExcept outcome

theorem Fills.guard {condition : Prop} [Decidable condition] {fault : Fault}
    {after : Result → Edit Buffer Next} {next : Edit Buffer Next} (fills : Fills next) :
    Fills (if condition then throw fault >>= after else next) :=
  fun outline => Edit.maintains_guard (fills outline)

theorem fills_modify {change : Buffer → Buffer}
    (same : ∀ buffer, (change buffer).outline = buffer.outline) :
    Fills (modify change : Edit Buffer PUnit) := by
  intro outline buffer kept
  exact (same buffer).trans kept

theorem fills_pure (result : Result) : Fills (pure result : Edit Buffer Result) :=
  fun _ => Edit.maintains_pure result

private theorem fills_writeValues (format : Format) (start number : Nat) (values : List Value) :
    Fills (writeValues format start number values) := by
  intro outline buffer kept
  obtain ⟨bytes, same⟩ := writeValues_keeps format start number values buffer
  rw [same]
  exact kept

theorem fills_overwrite (format : Format) (shape : Shape) (values : List Value) (offset : Nat) :
    Fills (overwrite format shape values offset) := by
  unfold overwrite
  refine Fills.bind (fills_modify fun _ => rfl) fun _ => ?_
  refine Fills.bind (fills_modify fun _ => rfl) fun _ => ?_
  exact .onBuffer fun _ => .guard (fills_writeValues _ _ _ _)

theorem fills_shaped {next : Format → Shape → Edit Buffer Next}
    (rest : ∀ format shape, Fills (next format shape)) :
    Fills (do
      let format ← Edit.ofExcept (← get).requireFormat
      let shape ← Edit.ofExcept ((← get).shapeOf format)
      next format shape) :=
  .onBuffer fun _ => (Fills.ofExcept _).bind fun format =>
    .onBuffer fun _ => (Fills.ofExcept _).bind (rest format)

private theorem fills_setValueCount (values : Nat) : Fills (setValueCount values) :=
  .onBuffer fun _ => (Fills.ofExcept _).bind fun _ => fills_modify fun _ => rfl

theorem fills_setDataAt (values : List Value) (offset : Nat) : Fills (setDataAt values offset) := by
  refine fills_shaped fun format shape => .onBuffer fun buffer => ?_
  have written := fills_overwrite format shape values offset
  dsimp only
  split
  · exact (fills_setValueCount _).bind fun _ => written
  · exact written

theorem fills_resizeElements (count : Nat) : Fills (resizeElements count) :=
  .onBuffer fun _ => (Fills.ofExcept _).bind fun _ => fills_modify fun _ => rfl

private theorem fills_resize (size : Nat) : Fills (resize size) := by
  refine fills_shaped fun format shape => ?_
  intro outline
  refine Edit.maintains_ite ?_ (fills_modify (fun _ => rfl) outline)
  exact Edit.maintains_get_bind fun buffer _ => Edit.maintains_bind_of_throw _ _

end Buffer

namespace Workbench

open Buffer

theorem fills_writePushConstant (range : PushConstant) : Fills (writePushConstant range) := by
  refine .guard (.onBuffer fun buffer => ?_)
  have pasted : Fills (modify fun buffer : Buffer =>
      { buffer with bytes := pasteBytes buffer.bytes range.offset (pushConstantBytes range) }) :=
    fills_modify fun _ => rfl
  dsimp only
  split
  · exact (fills_resize _).bind fun _ => pasted
  · exact pasted

theorem fills_writePushConstants (ranges : List PushConstant) :
    Fills (ranges.forM writePushConstant) :=
  fun outline => Edit.maintains_forM fun range _ => fills_writePushConstant range outline

end Workbench

end GpuScript
