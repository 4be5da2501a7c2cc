import GpuScript.Proofs.Buffer.Outline

namespace GpuScript

namespace Pipeline

/-- A pipeline without what the preparation of its kernel changes. -/
def outline (pipeline : Pipeline) : Pipeline :=
  { pipeline with
    buffers := []
    samplers := []
    pushConstants := none
    argumentBuffers := []
    literalSamplers := [] }

/-- The pipeline stores what its kernel is given in the buffer of this number. -/
def Stores (pipeline : Pipeline) (id : Id Buffer) : Prop :=
  (∃ slot, (slot, id) ∈ pipeline.argumentBuffers) ∨
    ∃ binding ∈ pipeline.pushConstants, binding.buffer = id

private theorem stores_of_lookup {pipeline : Pipeline} {slot : BindingSlot} {id : Id Buffer}
    (found : pipeline.argumentBuffers.lookup slot = some id) : pipeline.Stores id := by
  obtain ⟨earlier, later, same, -⟩ := List.lookup_eq_some_iff.mp found
  refine .inl ⟨slot, ?_⟩
  rw [same]
  simp

theorem maintains_placeArguments {holds : Pipeline → Prop} (buffers : Store Buffer)
    (sampled : ∀ pipeline samplers, holds pipeline → holds { pipeline with samplers })
    (bound : ∀ pipeline buffers, holds pipeline → holds { pipeline with buffers }) :
    Edit.Maintains holds (placeArguments buffers) := by
  unfold placeArguments
  refine Edit.maintains_get_bind fun seen held => ?_
  split
  · exact Edit.maintains_pure _
  · refine Edit.maintains_bind (Edit.maintains_onPart ?_) fun _ => Edit.maintains_onPart ?_
    · exact fun pipeline held => sampled pipeline _ held
    · exact fun pipeline held => bound pipeline _ held

end Pipeline

namespace Workbench

def setBuffer (bench : Workbench) (id : Id Buffer) (buffer : Buffer) : Workbench :=
  { bench with buffers := bench.buffers.set id buffer }

def withPushConstants (bench : Workbench) : Workbench :=
  { bench with
    pipeline := { bench.pipeline with
      pushConstants := some { buffer := bench.buffers.nextId, kind := .pushConstant } }
    buffers := bench.buffers.push
      { name := Buffer.generatedPushConstantName
        kind := .pushConstant
        format := some .unsignedByte } }

def argumentBufferKind (argument : ArgumentKind) : BufferKind :=
  if argument = .pod then .storage else .uniform

def withArgumentBuffer (bench : Workbench) (slot : BindingSlot) (argument : ArgumentKind) :
    Workbench :=
  { bench with
    pipeline := { bench.pipeline with
      buffers := bench.pipeline.buffers ++
        [{ buffer := bench.buffers.nextId, kind := argumentBufferKind argument, slot }]
      argumentBuffers := bench.pipeline.argumentBuffers ++ [(slot, bench.buffers.nextId)] }
    buffers := bench.buffers.push
      { name := s!"{bench.pipeline.name}_pod_buffer_{slot.descriptorSet}_{slot.binding}"
        kind := argumentBufferKind argument
        format := some .unsignedByte } }

theorem size_setBuffer (bench : Workbench) (id : Id Buffer) (buffer : Buffer) :
    (bench.setBuffer id buffer).buffers.size = bench.buffers.size :=
  Store.size_modify ..

theorem size_withPushConstants (bench : Workbench) :
    bench.withPushConstants.buffers.size = bench.buffers.size + 1 :=
  Store.size_push ..

theorem size_withArgumentBuffer (bench : Workbench) (slot : BindingSlot)
    (argument : ArgumentKind) :
    (bench.withArgumentBuffer slot argument).buffers.size = bench.buffers.size + 1 :=
  Store.size_push ..

theorem apply_onBuffer {Result : Type} (id : Id Buffer) (operation : Edit Buffer Result)
    (bench : Workbench) :
    (onBuffer id operation).apply bench =
      match bench.buffers.requireBuffer id with
      | .ok buffer => ((operation.apply buffer).1, bench.setBuffer id (operation.apply buffer).2)
      | .error fault => (.error fault, bench) := by
  rw [onBuffer, Edit.apply_bind_of_ok (Edit.apply_get bench), Edit.apply_bind, Edit.apply_ofExcept]
  cases bench.buffers.requireBuffer id <;> rfl

theorem apply_makePushConstantBuffer (bench : Workbench) :
    makePushConstantBuffer.apply bench =
      if bench.pipeline.pushConstants.isSome then (.error (.pipeline .pushConstantsBound), bench)
      else (.ok bench.buffers.nextId, bench.withPushConstants) := by
  rw [makePushConstantBuffer, Edit.apply_bind_of_ok (Edit.apply_get bench)]
  split <;> rfl

theorem apply_makeArgumentBuffer (slot : BindingSlot) (argument : ArgumentKind)
    (bench : Workbench) :
    (makeArgumentBuffer slot argument).apply bench =
      match bench.pipeline.bufferAt? slot with
      | some existing =>
        (.error (.pipeline (.argumentSlotTaken
          (((bench.buffers.get? existing).map Buffer.name).getD "")
          slot.descriptorSet slot.binding)), bench)
      | none => (.ok bench.buffers.nextId, bench.withArgumentBuffer slot argument) := by
  rw [makeArgumentBuffer, Edit.apply_bind_of_ok (Edit.apply_get bench)]
  cases bench.pipeline.bufferAt? slot <;> rfl

/-- A property of benches that making storage and writing into it cannot break. -/
structure Lasting (holds : Workbench → Prop) : Prop where
  pushConstants : ∀ bench, bench.pipeline.pushConstants = none → holds bench →
    holds bench.withPushConstants
  arguments : ∀ bench slot argument, bench.pipeline.bufferAt? slot = none → holds bench →
    holds (bench.withArgumentBuffer slot argument)
  contents : ∀ bench id buffer after, bench.pipeline.Stores id →
    bench.buffers.get? id = some buffer → after.outline = buffer.outline → holds bench →
    holds (bench.setBuffer id after)

/-- A property of benches that no part of preparing a kernel can break. -/
structure Enduring (holds : Workbench → Prop) : Prop extends Lasting holds where
  sampled : ∀ bench samplers, holds bench →
    holds { bench with pipeline := { bench.pipeline with samplers } }
  bound : ∀ bench buffers, holds bench →
    holds { bench with pipeline := { bench.pipeline with buffers } }
  literals : ∀ bench, holds bench → holds bench.makeLiteralSamplers

theorem enduring_outline (property : Pipeline → Prop) :
    Enduring fun bench => property bench.pipeline.outline where
  pushConstants _ _ held := held
  arguments _ _ _ _ held := held
  contents _ _ _ _ _ _ _ held := held
  sampled _ _ held := held
  bound _ _ held := held
  literals _ held := held

section Lasting

variable {holds : Workbench → Prop}

/-- The property holds, and the pipeline stores what its kernel is given in the buffer of a
number. -/
def Provides (holds : Workbench → Prop) (id : Id Buffer) (bench : Workbench) : Prop :=
  holds bench ∧ bench.pipeline.Stores id

theorem Lasting.onBuffer (lasting : Lasting holds) {Result : Type} {id : Id Buffer}
    {operation : Edit Buffer Result} (fills : Buffer.Fills operation) :
    Edit.Leads (Provides holds id) holds (fun _ => Provides holds id) (onBuffer id operation) := by
  rintro bench ⟨held, stored⟩
  rw [apply_onBuffer]
  cases found : bench.buffers.requireBuffer id with
  | error fault => exact held
  | ok buffer =>
    have present := Store.requireBuffer_ok_iff.mp found
    have written : holds (bench.setBuffer id (operation.apply buffer).2) :=
      lasting.contents bench id buffer _ stored present (fills.outline buffer) held
    dsimp only
    cases (operation.apply buffer).1 with
    | ok result => exact ⟨written, stored⟩
    | error fault => exact written

theorem provides_makePushConstantBuffer (lasting : Lasting holds) :
    Edit.Leads holds holds (Provides holds) makePushConstantBuffer := by
  intro bench held
  rw [apply_makePushConstantBuffer]
  by_cases bound : bench.pipeline.pushConstants.isSome
  · rw [if_pos bound]
    exact held
  · rw [if_neg bound]
    exact ⟨lasting.pushConstants bench (by simpa using bound) held, .inr ⟨_, rfl, rfl⟩⟩

private theorem provides_makeArgumentBuffer (lasting : Lasting holds) (slot : BindingSlot)
    (argument : ArgumentKind) :
    Edit.Leads holds holds (Provides holds) (makeArgumentBuffer slot argument) := by
  intro bench held
  rw [apply_makeArgumentBuffer]
  cases free : bench.pipeline.bufferAt? slot with
  | some existing => exact held
  | none =>
    exact ⟨lasting.arguments bench slot argument free held,
      .inl ⟨slot, by simp [withArgumentBuffer]⟩⟩

/-- The buffer of an argument's value is resized to hold it, and given back if the sizes agree. -/
theorem provides_sized (lasting : Lasting holds) (kernel : String) (argument : ArgumentValue)
    (entry : ArgumentEntry) (id : Id Buffer) :
    Edit.Leads (Provides holds id) holds (Provides holds) (do
      Workbench.onBuffer id do
        if (← get).valueCount < entry.offset + entry.size then
          Buffer.resizeElements (entry.offset + entry.size)
      if entry.size ≠ argument.format.size then
        throw (.pipeline (.argumentSize kernel argument.describe))
      return id) := by
  refine Edit.leads_bind (lasting.onBuffer ?_) fun _ => ?_
  · refine .onBuffer fun buffer outline => ?_
    exact Edit.maintains_ite (Buffer.fills_resizeElements _ outline) (Buffer.fills_pure _ outline)
  · exact Edit.leads_guard (fun _ held => held.1) fun _ => Edit.leads_pure fun _ held => held

/-- The buffer that an argument's value goes to is one that the pipeline stores arguments in. -/
theorem provides_argumentBuffer (lasting : Lasting holds) (kernel : String)
    (argument : ArgumentValue) (entry : Option ArgumentEntry) :
    Edit.Leads holds holds (Provides holds) (argumentBuffer kernel argument entry) := by
  unfold argumentBuffer
  cases entry with
  | none => exact Edit.leads_throw fun _ held => held
  | some entry =>
    dsimp only
    split
    · refine Edit.leads_get_bind fun seen held => ?_
      split
      · rename_i binding bound
        refine Edit.leads_pure ?_
        rintro bench rfl
        exact ⟨held, .inr ⟨binding, bound, rfl⟩⟩
      · rintro bench rfl
        exact provides_makePushConstantBuffer lasting bench held
    · refine Edit.leads_get_bind fun seen held => ?_
      split
      · rename_i id found
        rintro bench rfl
        exact provides_sized lasting kernel argument entry id bench
          ⟨held, Pipeline.stores_of_lookup found⟩
      · refine Edit.leads_bind ?_ (provides_sized lasting kernel argument entry)
        rintro bench rfl
        exact provides_makeArgumentBuffer lasting _ _ bench held

theorem maintains_storeArguments (lasting : Lasting holds) (kernel : String)
    (entries : List ArgumentEntry) (arguments : List ArgumentValue) :
    Edit.Maintains holds (storeArguments kernel entries arguments) := by
  induction arguments with
  | nil => exact Edit.maintains_pure _
  | cons argument rest ih =>
    refine Edit.Leads.maintains ?_
    refine Edit.leads_bind (provides_argumentBuffer lasting _ _ _) fun buffer => ?_
    refine Edit.leads_bind (lasting.onBuffer (Buffer.fills_setDataAt _ _)) fun _ => ?_
    exact fun bench provided => ih.leads bench provided.1

theorem maintains_makeArgumentBuffers (lasting : Lasting holds) :
    Edit.Maintains holds makeArgumentBuffers := by
  unfold makeArgumentBuffers
  refine Edit.maintains_get_bind fun seen _ => ?_
  dsimp only
  split
  · exact maintains_storeArguments lasting _ _ _
  · exact Edit.maintains_pure _

theorem maintains_makePushConstants (lasting : Lasting holds) :
    Edit.Maintains holds makePushConstants := by
  unfold makePushConstants
  refine Edit.maintains_get_bind fun seen _ => ?_
  split
  · exact Edit.maintains_pure _
  · rename_i kernel _
    refine Edit.maintains_ite (Edit.maintains_pure _) ?_
    refine Edit.Leads.maintains ?_
    refine Edit.leads_bind (provides_makePushConstantBuffer lasting) fun buffer => ?_
    have filled : Edit.Leads (Provides holds buffer) holds (fun _ => Provides holds buffer)
        (onBuffer buffer (kernel.pushConstants.forM writePushConstant)) :=
      lasting.onBuffer (fills_writePushConstants _)
    exact filled.weaken fun _ _ provided => provided.1

theorem Enduring.placeArguments (enduring : Enduring holds) (buffers : Store Buffer) :
    Edit.Maintains holds (onPipeline (Pipeline.placeArguments buffers)) := by
  refine Edit.maintains_onPart fun bench held => ?_
  have placed : Edit.Maintains (fun pipeline => holds { bench with pipeline })
      (Pipeline.placeArguments buffers) :=
    Pipeline.maintains_placeArguments buffers
      (fun pipeline samplers held => enduring.sampled { bench with pipeline } samplers held)
      (fun pipeline bindings held => enduring.bound { bench with pipeline } bindings held)
  exact placed bench.pipeline held

theorem maintains_prepareKernel (enduring : Enduring holds) :
    Edit.Maintains holds prepareKernel := by
  unfold prepareKernel
  refine Edit.maintains_get_bind fun seen _ => ?_
  refine Edit.maintains_bind (enduring.placeArguments _) fun _ => ?_
  refine Edit.maintains_bind (Edit.maintains_modify enduring.literals) fun _ => ?_
  refine Edit.maintains_bind (maintains_makeArgumentBuffers enduring.toLasting) fun _ => ?_
  exact maintains_makePushConstants enduring.toLasting

end Lasting

end Workbench

end GpuScript
