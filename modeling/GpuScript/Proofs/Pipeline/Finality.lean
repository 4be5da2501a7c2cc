import GpuScript.Proofs.Pipeline.Completeness
import GpuScript.Proofs.Pipeline.Storage

namespace GpuScript

namespace Pipeline

/-- A pipeline of a name that has failed its validation. -/
structure Failed (name : String) (pipeline : Pipeline) : Prop where
  validity : pipeline.validity = .invalid
  name : pipeline.name = name

/-- A property that does not depend on what requests attach to a pipeline. -/
structure Steady (holds : Pipeline → Prop) : Prop where
  shaders : ∀ pipeline shaders, holds pipeline → holds { pipeline with shaders }
  colorAttachments : ∀ pipeline colorAttachments, holds pipeline →
    holds { pipeline with colorAttachments }
  resolveTargets : ∀ pipeline resolveTargets, holds pipeline →
    holds { pipeline with resolveTargets }
  vertexBuffers : ∀ pipeline vertexBuffers, holds pipeline → holds { pipeline with vertexBuffers }
  depthStencil : ∀ pipeline depthStencil, holds pipeline → holds { pipeline with depthStencil }
  indexBuffer : ∀ pipeline indexBuffer, holds pipeline → holds { pipeline with indexBuffer }
  pushConstants : ∀ pipeline pushConstants, holds pipeline → holds { pipeline with pushConstants }
  groups : ∀ pipeline groups, holds pipeline → holds { pipeline with groups }
  tables : ∀ pipeline tables, holds pipeline → holds { pipeline with tables }

section Steady

variable {holds : Pipeline → Prop} (steady : Steady holds)
include steady

theorem Steady.attachShader (id : Id Shader) (shader : Shader) (stage : ShaderStage) :
    Edit.Maintains holds (attachShader id shader stage) := by
  unfold Pipeline.attachShader
  refine Edit.maintains_get_bind fun seen held => ?_
  dsimp only
  split
  · exact Edit.maintains_bind_of_throw _ _
  · exact Edit.maintains_guard (Edit.maintains_set (steady.shaders seen _ held))

theorem Steady.changeShader (shader purpose : String) (change : AttachedShader → AttachedShader) :
    Edit.Maintains holds (changeShader shader purpose change) := by
  unfold Pipeline.changeShader
  refine Edit.maintains_get_bind fun seen held => Edit.maintains_guard ?_
  exact Edit.maintains_set (steady.shaders seen _ held)

theorem Steady.setEntryPoint (shader entryPoint : String) :
    Edit.Maintains holds (setEntryPoint shader entryPoint) := by
  unfold Pipeline.setEntryPoint
  refine Edit.maintains_guard (Edit.maintains_get_bind fun seen _ => ?_)
  split
  · exact Edit.maintains_throw _
  · exact Edit.maintains_guard (steady.changeShader _ _ _)

theorem Steady.setOptimizations (shader : String) (passes : List String) :
    Edit.Maintains holds (setOptimizations shader passes) := by
  unfold Pipeline.setOptimizations
  dsimp only
  split
  · exact Edit.maintains_bind_of_throw _ _
  · exact steady.changeShader _ _ _

theorem Steady.setSubgroupSize (shader : String) (size : Nat) :
    Edit.Maintains holds (setSubgroupSize shader size) :=
  Edit.maintains_guard (steady.changeShader _ _ _)

end Steady

/-- Validating changes the verdict at most. -/
theorem maintains_validate {holds : Pipeline → Prop}
    (judged : ∀ pipeline validity, holds pipeline → holds { pipeline with validity })
    (buffers : Store Buffer) : Edit.Maintains holds (validate buffers) := by
  unfold validate
  refine Edit.maintains_get_bind fun seen held => Edit.maintains_guard ?_
  split
  · exact Edit.maintains_set (judged seen _ held)
  · refine Edit.maintains_bind (Edit.maintains_set (judged seen _ held)) fun _ => ?_
    exact Edit.maintains_throw _

variable {name : String}

theorem steady_failed : Steady (Failed name) where
  shaders _ _ failed := ⟨failed.validity, failed.name⟩
  colorAttachments _ _ failed := ⟨failed.validity, failed.name⟩
  resolveTargets _ _ failed := ⟨failed.validity, failed.name⟩
  vertexBuffers _ _ failed := ⟨failed.validity, failed.name⟩
  depthStencil _ _ failed := ⟨failed.validity, failed.name⟩
  indexBuffer _ _ failed := ⟨failed.validity, failed.name⟩
  pushConstants _ _ failed := ⟨failed.validity, failed.name⟩
  groups _ _ failed := ⟨failed.validity, failed.name⟩
  tables _ _ failed := ⟨failed.validity, failed.name⟩

theorem apply_validate_of_failed {pipeline : Pipeline} (failed : Failed name pipeline)
    (buffers : Store Buffer) :
    (validate buffers).apply pipeline = (.error (.pipeline (.failedBefore name)), pipeline) := by
  unfold validate
  rw [Edit.apply_bind_of_ok (Edit.apply_get pipeline), ← failed.name]
  dsimp only
  rw [if_pos failed.validity]
  rfl

private theorem maintains_validate_failed (buffers : Store Buffer) :
    Edit.Maintains (Failed name) (validate buffers) := by
  intro pipeline failed
  rw [apply_validate_of_failed failed]
  exact failed

end Pipeline

namespace Workbench

variable {name : String}

private def Failed (name : String) (bench : Workbench) : Prop := bench.pipeline.Failed name

theorem maintains_onPipeline {property : Pipeline → Prop} {Result : Type}
    {operation : Edit Pipeline Result} (maintained : Edit.Maintains property operation) :
    Edit.Maintains (fun bench => property bench.pipeline) (onPipeline operation) :=
  Edit.maintains_onPart fun bench held => maintained bench.pipeline held

theorem maintains_onBuffer {property : Pipeline → Prop} {Result : Type} (id : Id Buffer)
    (operation : Edit Buffer Result) :
    Edit.Maintains (fun bench => property bench.pipeline) (onBuffer id operation) := by
  unfold onBuffer
  refine Edit.maintains_get_bind fun seen _ => ?_
  refine Edit.maintains_bind (Edit.maintains_ofExcept _) fun buffer => ?_
  exact Edit.maintains_onPart fun _ held => held

theorem maintains_fitToFramebuffer {property : Pipeline → Prop} (id : Id Buffer) (mipLevel : Nat) :
    Edit.Maintains (fun bench => property bench.pipeline) (fitToFramebuffer id mipLevel) := by
  unfold fitToFramebuffer
  refine Edit.maintains_get_bind fun seen _ => ?_
  exact Edit.maintains_bind (Edit.maintains_ofExcept _) fun _ => maintains_onBuffer _ _

theorem maintains_changePipeline {property : Pipeline → Prop} {change : Pipeline → Pipeline}
    (spared : ∀ pipeline, property pipeline → property (change pipeline)) :
    Edit.Maintains (fun bench => property bench.pipeline) (onPipeline (modify change)) :=
  maintains_onPipeline (Edit.maintains_modify spared)

theorem maintains_addColorAttachment {property : Pipeline → Prop}
    (steady : Pipeline.Steady property) (buffer : Id Buffer) (location mipLevel : Nat) :
    Edit.Maintains (fun bench => property bench.pipeline)
      (addColorAttachment buffer location mipLevel) := by
  unfold addColorAttachment
  refine Edit.maintains_get_bind fun seen _ => ?_
  dsimp only
  split
  · exact Edit.maintains_bind_of_throw _ _
  · refine Edit.maintains_bind (maintains_fitToFramebuffer _ _) fun _ => ?_
    exact maintains_changePipeline fun pipeline held => steady.colorAttachments pipeline _ held

theorem maintains_addResolveTarget {property : Pipeline → Prop}
    (steady : Pipeline.Steady property) (buffer : Id Buffer) :
    Edit.Maintains (fun bench => property bench.pipeline) (addResolveTarget buffer) := by
  unfold addResolveTarget
  refine Edit.maintains_bind (maintains_fitToFramebuffer _ _) fun _ => ?_
  exact maintains_changePipeline fun pipeline held => steady.resolveTargets pipeline _ held

theorem maintains_setDepthStencil {property : Pipeline → Prop}
    (steady : Pipeline.Steady property) (buffer : Id Buffer) :
    Edit.Maintains (fun bench => property bench.pipeline) (setDepthStencil buffer) := by
  unfold setDepthStencil
  refine Edit.maintains_get_bind fun seen _ => Edit.maintains_guard ?_
  refine Edit.maintains_bind (maintains_fitToFramebuffer _ _) fun _ => ?_
  exact maintains_changePipeline fun pipeline held => steady.depthStencil pipeline _ held

theorem maintains_fitColorAttachments {property : Pipeline → Prop}
    (attachments : List BufferBinding) :
    Edit.Maintains (fun bench => property bench.pipeline) (fitColorAttachments attachments) := by
  induction attachments with
  | nil => exact Edit.maintains_pure _
  | cons attachment rest ih =>
    exact Edit.maintains_bind (maintains_fitToFramebuffer _ _) fun _ => ih

theorem maintains_fitAttachments {property : Pipeline → Prop} :
    Edit.Maintains (fun bench => property bench.pipeline) fitAttachments := by
  unfold fitAttachments
  refine Edit.maintains_get_bind fun seen _ => ?_
  refine Edit.maintains_bind (Edit.maintains_ofExcept _) fun extent => ?_
  refine Edit.maintains_ite (Edit.maintains_pure _) ?_
  refine Edit.maintains_bind (maintains_fitColorAttachments _) fun _ => ?_
  split
  · exact Edit.maintains_pure _
  · exact maintains_onBuffer _ _

private theorem enduring_failed : Enduring (Failed name) where
  pushConstants _ _ failed := ⟨failed.validity, failed.name⟩
  arguments _ _ _ _ failed := ⟨failed.validity, failed.name⟩
  contents _ _ _ _ _ _ _ failed := failed
  sampled _ _ failed := ⟨failed.validity, failed.name⟩
  bound _ _ failed := ⟨failed.validity, failed.name⟩
  literals _ failed := ⟨failed.validity, failed.name⟩

theorem maintains_copyPipeline {property : Pipeline → Prop} (copy : String) :
    Edit.Maintains (fun bench => property bench.pipeline) (copyPipeline copy) := by
  unfold copyPipeline
  refine Edit.maintains_get_bind fun seen _ => ?_
  refine Edit.maintains_ite (Edit.maintains_pure _) ?_
  exact Edit.maintains_onPart fun _ held => held

end Workbench

namespace Pipeline

/-- A change of a pipeline that cannot fail. -/
inductive Change where
  | addBuffer (binding : BufferBinding)
  | bindBufferByName (buffer : Id Buffer) (kind : BufferKind) (name : String)
  | bindBufferByNumber (buffer : Id Buffer) (kind : BufferKind) (number : Nat)
  | clearBuffers (slot : BindingSlot)
  | addSampler (binding : SamplerBinding)
  | bindSamplerByName (sampler : Id Sampler) (name : String)
  | bindSamplerByNumber (sampler : Id Sampler) (number : Nat)
  | clearSamplers (slot : BindingSlot)
  | addTopLevel (binding : TopLevelBinding)
  | addArgumentValue (argument : ArgumentValue)
  | setFramebufferSize (width height : Nat)
  | setState (state : RasterState)
  | setRayLimits (payloadSize hitAttributeSize recursionDepth createFlags : Nat)

def Change.apply (change : Change) (pipeline : Pipeline) : Pipeline :=
  match change with
  | .addBuffer binding => pipeline.addBuffer binding
  | .bindBufferByName buffer kind name => pipeline.bindBufferByName buffer kind name
  | .bindBufferByNumber buffer kind number => pipeline.bindBufferByNumber buffer kind number
  | .clearBuffers slot => pipeline.clearBuffers slot
  | .addSampler binding => pipeline.addSampler binding
  | .bindSamplerByName sampler name => pipeline.bindSamplerByName sampler name
  | .bindSamplerByNumber sampler number => pipeline.bindSamplerByNumber sampler number
  | .clearSamplers slot => pipeline.clearSamplers slot
  | .addTopLevel binding => pipeline.addTopLevel binding
  | .addArgumentValue argument => pipeline.addArgumentValue argument
  | .setFramebufferSize width height => { pipeline with width, height }
  | .setState state => { pipeline with state }
  | .setRayLimits payloadSize hitAttributeSize recursionDepth createFlags =>
    { pipeline with
      maxRayPayloadSize := payloadSize
      maxRayHitAttributeSize := hitAttributeSize
      maxRayRecursionDepth := recursionDepth
      createFlags }

theorem Change.failed {name : String} {pipeline : Pipeline} (failed : pipeline.Failed name)
    (change : Change) : (change.apply pipeline).Failed name := by
  cases change <;> exact ⟨failed.validity, failed.name⟩

/-- An operation on a pipeline that can fail. -/
inductive Request where
  | attachShader (id : Id Shader) (shader : Shader) (stage : ShaderStage)
  | setEntryPoint (shader entryPoint : String)
  | setOptimizations (shader : String) (passes : List String)
  | setSubgroupSize (shader : String) (size : Nat)
  /-- Any of the settings of a shader that have no check of their own. -/
  | changeShader (shader purpose : String) (change : AttachedShader → AttachedShader)
  | setIndexBuffer (buffer : Id Buffer)
  | addVertexBuffer (binding : BufferBinding)
  | setPushConstantBuffer (buffer : Id Buffer)
  | addGroup (group : ShaderGroup)
  | addTable (table : BindingTable)
  | placeArguments (buffers : Store Buffer)
  | validate (buffers : Store Buffer)

def Request.edit : Request → Edit Pipeline Unit
  | .attachShader id shader stage => Pipeline.attachShader id shader stage
  | .setEntryPoint shader entryPoint => Pipeline.setEntryPoint shader entryPoint
  | .setOptimizations shader passes => Pipeline.setOptimizations shader passes
  | .setSubgroupSize shader size => Pipeline.setSubgroupSize shader size
  | .changeShader shader purpose change => Pipeline.changeShader shader purpose change
  | .setIndexBuffer buffer => Pipeline.setIndexBuffer buffer
  | .addVertexBuffer binding => Pipeline.addVertexBuffer binding
  | .setPushConstantBuffer buffer => Pipeline.setPushConstantBuffer buffer
  | .addGroup group => Pipeline.addGroup group
  | .addTable table => Pipeline.addTable table
  | .placeArguments buffers => Pipeline.placeArguments buffers
  | .validate buffers => Pipeline.validate buffers

/-- A request attaches something, or else it places arguments or validates. -/
theorem Steady.request {holds : Pipeline → Prop} (steady : Steady holds) (request : Request)
    (placed : ∀ buffers, request = .placeArguments buffers →
      Edit.Maintains holds (Pipeline.placeArguments buffers))
    (judged : ∀ buffers, Edit.Maintains holds (Pipeline.validate buffers)) :
    Edit.Maintains holds request.edit := by
  cases request with
  | attachShader id shader stage => exact steady.attachShader id shader stage
  | setEntryPoint shader entryPoint => exact steady.setEntryPoint shader entryPoint
  | setOptimizations shader passes => exact steady.setOptimizations shader passes
  | setSubgroupSize shader size => exact steady.setSubgroupSize shader size
  | changeShader shader purpose change => exact steady.changeShader shader purpose change
  | setIndexBuffer buffer =>
    exact (Edit.secures_checked fun pipeline _ => steady.indexBuffer pipeline _).maintains
  | addVertexBuffer binding =>
    exact (Edit.secures_checked fun pipeline _ => steady.vertexBuffers pipeline _).maintains
  | setPushConstantBuffer buffer =>
    exact (Edit.secures_checked fun pipeline _ => steady.pushConstants pipeline _).maintains
  | addGroup group =>
    exact (Edit.secures_checked fun pipeline _ => steady.groups pipeline _).maintains
  | addTable table =>
    exact (Edit.secures_checked fun pipeline _ => steady.tables pipeline _).maintains
  | placeArguments buffers => exact placed buffers rfl
  | validate buffers => exact judged buffers

theorem Request.maintains_edit (name : String) (request : Request) :
    Edit.Maintains (Failed name) request.edit := by
  refine steady_failed.request request (fun buffers _ => ?_) maintains_validate_failed
  exact maintains_placeArguments buffers
    (fun _ _ failed => ⟨failed.validity, failed.name⟩)
    (fun _ _ failed => ⟨failed.validity, failed.name⟩)

end Pipeline

namespace Workbench

/-- Anything that can be done with a pipeline and the stores of what is bound to it. -/
inductive Operation where
  | change (made : Pipeline.Change)
  | request (asked : Pipeline.Request)
  | addColorAttachment (buffer : Id Buffer) (location mipLevel : Nat)
  | addResolveTarget (buffer : Id Buffer)
  | setDepthStencil (buffer : Id Buffer)
  | fitAttachments
  | makeArgumentBuffers
  | makeLiteralSamplers
  | makePushConstants
  | prepareKernel
  | copyPipeline (name : String)
  /-- Whatever else happens to the buffers and samplers. -/
  | replaceStores (buffers : Store Buffer) (samplers : Store Sampler)

def Operation.edit : Operation → Edit Workbench Unit
  | .change made => onPipeline (modify made.apply)
  | .request asked => onPipeline asked.edit
  | .addColorAttachment buffer location mipLevel =>
    Workbench.addColorAttachment buffer location mipLevel
  | .addResolveTarget buffer => Workbench.addResolveTarget buffer
  | .setDepthStencil buffer => Workbench.setDepthStencil buffer
  | .fitAttachments => Workbench.fitAttachments
  | .makeArgumentBuffers => Workbench.makeArgumentBuffers
  | .makeLiteralSamplers => modify Workbench.makeLiteralSamplers
  | .makePushConstants => Workbench.makePushConstants
  | .prepareKernel => Workbench.prepareKernel
  | .copyPipeline name => do let _ ← Workbench.copyPipeline name
  | .replaceStores buffers samplers => modify fun bench => { bench with buffers, samplers }

/-- Operations one after the other, each of which may fail without stopping the next one. -/
def perform (bench : Workbench) : List Operation → Workbench
  | [] => bench
  | operation :: rest => (operation.edit.apply bench).2.perform rest

private theorem Operation.maintains_edit (name : String) (operation : Operation) :
    Edit.Maintains (Failed name) operation.edit := by
  cases operation with
  | change made => exact maintains_changePipeline fun _ failed => made.failed failed
  | request asked => exact maintains_onPipeline (asked.maintains_edit name)
  | addColorAttachment buffer location mipLevel =>
    exact maintains_addColorAttachment Pipeline.steady_failed buffer location mipLevel
  | addResolveTarget buffer => exact maintains_addResolveTarget Pipeline.steady_failed buffer
  | setDepthStencil buffer => exact maintains_setDepthStencil Pipeline.steady_failed buffer
  | fitAttachments => exact maintains_fitAttachments
  | makeArgumentBuffers => exact maintains_makeArgumentBuffers enduring_failed.toLasting
  | makeLiteralSamplers => exact Edit.maintains_modify enduring_failed.literals
  | makePushConstants => exact maintains_makePushConstants enduring_failed.toLasting
  | prepareKernel => exact maintains_prepareKernel enduring_failed
  | copyPipeline copy =>
    exact Edit.maintains_bind (maintains_copyPipeline copy) fun _ => Edit.maintains_pure _
  | replaceStores buffers samplers => exact Edit.maintains_modify fun _ failed => failed

private theorem failed_perform {name : String} {bench : Workbench} (failed : bench.Failed name)
    (operations : List Operation) : (bench.perform operations).Failed name := by
  induction operations generalizing bench with
  | nil => exact failed
  | cons operation rest ih => exact ih (operation.maintains_edit name bench failed)

end Workbench

namespace Pipeline

theorem apply_validate_of_open {pipeline : Pipeline} (opened : pipeline.validity ≠ .invalid)
    (buffers : Store Buffer) :
    (validate buffers).apply pipeline =
      match pipeline.check buffers with
      | .ok _ => (.ok ⟨⟩, { pipeline with validity := .valid })
      | .error fault => (.error fault, { pipeline with validity := .invalid }) := by
  unfold validate
  rw [Edit.apply_bind_of_ok (Edit.apply_get pipeline)]
  dsimp only
  rw [if_neg opened]
  cases pipeline.check buffers <;> rfl

/-- The validation of a pipeline that has not failed one succeeds exactly when the pipeline is
complete, and records what it finds; once it has failed, every later one fails as well, whatever is
done in between. -/
theorem validate_exact_and_final (pipeline : Pipeline) (buffers : Store Buffer)
    (opened : pipeline.validity = .draft ∨ pipeline.validity = .valid) :
    ((validate buffers).Succeeds pipeline ↔ pipeline.Complete buffers) ∧
      ∀ outcome after, (validate buffers).apply pipeline = (outcome, after) →
        match outcome with
        | .ok _ => after = { pipeline with validity := .valid }
        | .error _ =>
          after = { pipeline with validity := .invalid } ∧
            ∀ bench : Workbench, bench.pipeline = after → ∀ operations later,
              let final := (bench.perform operations).pipeline
              final.validity = .invalid ∧
                (validate later).apply final =
                  (.error (.pipeline (.failedBefore pipeline.name)), final) := by
  have notFailed : pipeline.validity ≠ .invalid := by
    rcases opened with draft | valid
    · simp [draft]
    · simp [valid]
  rw [← check_ok_iff, Edit.succeeds_iff, apply_validate_of_open notFailed]
  cases checked : pipeline.check buffers with
  | ok verdict =>
    refine ⟨by simp, ?_⟩
    rintro outcome after ⟨rfl, rfl⟩
    rfl
  | error fault =>
    refine ⟨by simp, ?_⟩
    rintro outcome after ⟨rfl, rfl⟩
    refine ⟨rfl, fun bench placed operations later => ?_⟩
    have failed : bench.Failed pipeline.name := by
      rw [Workbench.Failed, placed]
      exact ⟨rfl, rfl⟩
    have final := Workbench.failed_perform failed operations
    exact ⟨final.validity, apply_validate_of_failed final later⟩

/-- A compute pipeline validated before it has a shader stays invalid when it gets one. -/
theorem validate_exact_and_final_compute :
    let pipeline : Pipeline := { name := "work", kind := .compute }
    let shader : Shader := { name := "double", stage := .compute }
    let attach : Workbench.Operation := .request (.attachShader ⟨0⟩ shader .compute)
    let bench : Workbench := { pipeline := { pipeline with validity := .invalid } }
    let final := (bench.perform [attach]).pipeline
    pipeline.validity = .draft ∧ ¬pipeline.Complete {} ∧ final.shaders ≠ [] ∧
      (validate {}).apply final = (.error (.pipeline (.failedBefore "work")), final) := by
  intro pipeline shader attach bench final
  obtain ⟨verdict, outcomes⟩ := validate_exact_and_final pipeline {} (.inl rfl)
  have refused : (validate {}).apply pipeline =
      (.error (.pipeline .noComputeShader), { pipeline with validity := .invalid }) := rfl
  have incomplete : ¬pipeline.Complete {} := by
    rw [← verdict, Edit.succeeds_iff, refused]
    simp
  have attached : final.shaders = [.fresh ⟨0⟩ shader .compute] := rfl
  obtain ⟨-, later⟩ := outcomes _ _ refused
  refine ⟨rfl, incomplete, ?_, (later bench rfl [attach] {}).2⟩
  simp [attached]

end Pipeline

end GpuScript
