import GpuScript.Pipeline.Framebuffer

/-! Validation: whether a pipeline is complete and fits the buffers bound to it. A pipeline that
fails stays invalid. -/
namespace GpuScript

namespace Pipeline

def hasStage (pipeline : Pipeline) (stage : ShaderStage) : Bool :=
  pipeline.shaders.any (·.stage == stage)

/-- A condition, or the fault that it does not hold. -/
def expect (holds : Bool) (cause : PipelineCause) : Except Fault Unit :=
  if holds then .ok () else .error (.pipeline cause)

/-- The attachment's buffer has one element for each texel of the framebuffer at a mip level. -/
def checkExtent (pipeline : Pipeline) (buffers : Store Buffer) (attachment : BufferBinding)
    (mipLevel : Nat) (cause : PipelineCause) : Except Fault Unit := do
  let buffer ← buffers.requireBuffer attachment.buffer
  let extent ← attachmentExtent pipeline.width pipeline.height mipLevel
  expect (buffer.elementCount == extent.count) cause

/-- The first mip level past the base one at which a side has no texel left. -/
def zeroLevel (side : Nat) : Nat := side.log2 + 1

/-- Every mip level of an attachment has texels. -/
def checkMipLevels (buffers : Store Buffer) (attachment : BufferBinding) : Except Fault Unit := do
  let buffer ← buffers.requireBuffer attachment.buffer
  let level := min (zeroLevel buffer.width) (zeroLevel buffer.height)
  if level < buffer.mipLevels then
    throw (.pipeline (if zeroLevel buffer.width ≤ zeroLevel buffer.height then
      .zeroWidthLevel buffer.mipLevels level
    else .zeroHeightLevel buffer.mipLevels level))

def checkGraphics (pipeline : Pipeline) (buffers : Store Buffer) : Except Fault Unit := do
  expect (!pipeline.colorAttachments.isEmpty) .noColorAttachment
  expect (pipeline.hasStage .vertex) .noVertexShader
  expect (pipeline.hasStage .fragment) .noFragmentShader
  pipeline.colorAttachments.forM (checkMipLevels buffers)

/-- A shader that a group names is attached with a stage that its slot takes. -/
def checkGroupSlot (pipeline : Pipeline) (group slot : String) (accepts : ShaderStage → Bool) :
    Option (Id Shader) → Except Fault Unit
  | none => .ok ()
  | some shader =>
    match pipeline.shaders.find? (·.shader == shader) with
    | none => .error (.pipeline (.groupShaderMissing group))
    | some attached => expect (accepts attached.stage) (.groupShaderStage group slot)

/-- A group is either general or a hit group, and its shaders fit their slots. -/
def checkGroup (pipeline : Pipeline) (group : ShaderGroup) : Except Fault Unit := do
  expect (!(group.isGeneral && group.isHit)) (.mixedGroup group.name)
  expect (group.isGeneral || group.isHit) (.emptyGroup group.name)
  pipeline.checkGroupSlot group.name "general" ShaderStage.isGeneral group.general
  pipeline.checkGroupSlot group.name "closest hit" (· == .closestHit) group.closestHit
  pipeline.checkGroupSlot group.name "any hit" (· == .anyHit) group.anyHit
  pipeline.checkGroupSlot group.name "intersection" (· == .intersection) group.intersection

/-- Records without a library index name groups of the pipeline. -/
def checkTable (pipeline : Pipeline) (table : BindingTable) : Except Fault Unit :=
  table.records.forM fun record =>
    expect (record.libraryIndex != wordMax || (pipeline.groupIndex? record.group).isSome)
      (.unknownGroup table.name record.group)

def checkRayTracing (pipeline : Pipeline) : Except Fault Unit := do
  expect (pipeline.hasStage .rayGeneration) .noRayGenerationShader
  expect (!pipeline.groups.isEmpty) .noShaderGroup
  pipeline.groups.forM pipeline.checkGroup
  pipeline.tables.forM pipeline.checkTable

/-- A bound buffer has a format. -/
def checkFormatOf (buffers : Store Buffer) (binding : BufferBinding) : Except Fault Unit := do
  let buffer ← buffers.requireBuffer binding.buffer
  expect buffer.format.isSome
    (.boundWithoutFormat binding.slot.descriptorSet binding.slot.binding)

/-- All conditions on a pipeline of its kind, in the order in which they are reported. -/
def check (pipeline : Pipeline) (buffers : Store Buffer) : Except Fault Unit := do
  pipeline.colorAttachments.forM fun attachment =>
    pipeline.checkExtent buffers attachment attachment.baseMipLevel .colorSizeDiffers
  pipeline.depthStencil.toList.forM fun depth =>
    pipeline.checkExtent buffers depth 0 .depthSizeDiffers
  pipeline.buffers.forM (checkFormatOf buffers)
  match pipeline.kind with
  | .graphics => pipeline.checkGraphics buffers
  | .compute => expect (!pipeline.shaders.isEmpty) .noComputeShader
  | .rayTracing => pipeline.checkRayTracing

def validate (buffers : Store Buffer) : Edit Pipeline Unit := do
  let pipeline ← get
  if pipeline.validity = .invalid then throw (.pipeline (.failedBefore pipeline.name))
  match pipeline.check buffers with
  | .ok () => set { pipeline with validity := .valid }
  | .error fault =>
    set { pipeline with validity := .invalid }
    throw fault

end Pipeline

end GpuScript
