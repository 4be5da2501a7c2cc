namespace GpuScript

inductive PipelineCause where
  | unknownBuffer (index : Nat)
  | unknownPipeline (index : Nat)
  | framebufferTooLarge (width height mipLevel : Nat)
  | onlyComputeShaders
  | computeInGraphics
  | rayTracingInGraphics
  | onlyRayTracingShaders
  | duplicateShader
  | unknownShader (purpose shader : String)
  | blankEntryPoint
  | secondEntryPoint
  | duplicateOptimization (name : String)
  | subgroupSize (size : Nat) (shader : String)
  | colorLocationTaken
  | colorBufferBound
  | notAColorAttachment
  | depthBufferBound
  | indexBufferBound
  | vertexLocationTaken
  | pushConstantsBound
  | duplicateGroup (name : String)
  | duplicateTable (name : String)
  /-- The pipeline failed an earlier validation. -/
  | failedBefore (pipeline : String)
  | colorSizeDiffers
  | depthSizeDiffers
  | boundWithoutFormat (descriptorSet binding : Nat)
  | noColorAttachment
  | noVertexShader
  | noFragmentShader
  | zeroWidthLevel (mipLevels level : Nat)
  | zeroHeightLevel (mipLevels level : Nat)
  | noComputeShader
  | noRayGenerationShader
  | noShaderGroup
  | mixedGroup (group : String)
  | emptyGroup (group : String)
  | groupShaderMissing (group : String)
  | groupShaderStage (group slot : String)
  | unknownGroup (table group : String)
  | samplerKind
  | bindingKind (buffer kind : String)
  | unhandledBufferType
  /-- The argument is given as `name n` or `number n`. -/
  | noArgumentEntry (kernel argument : String)
  | argumentSize (kernel argument : String)
  | argumentSlotTaken (buffer : String) (descriptorSet binding : Nat)
  | unalignedPushConstant (offset size : Nat)
  | widthLimit (field : String) (bits value : Nat)
  | transformSize (count : Nat)
  deriving DecidableEq

def PipelineCause.message : PipelineCause → String
  | .unknownBuffer index => s!"unknown buffer id {index}"
  | .unknownPipeline index => s!"unknown pipeline id {index}"
  | .framebufferTooLarge width height mipLevel =>
    s!"framebuffer {width}x{height} at mip level {mipLevel} is too large"
  | .onlyComputeShaders => "only compute shaders allowed in a compute pipeline"
  | .computeInGraphics => "can not add a compute shader to a graphics pipeline"
  | .rayTracingInGraphics => "can not add a ray tracing shader to a graphics pipeline"
  | .onlyRayTracingShaders => "only ray tracing shaders allowed in a ray tracing pipeline"
  | .duplicateShader => "can not add duplicate shader to pipeline"
  | .unknownShader purpose shader => s!"unknown shader specified for {purpose}: {shader}"
  | .blankEntryPoint => "entry point should not be blank"
  | .secondEntryPoint => "multiple entry points given for the same shader"
  | .duplicateOptimization name => s!"duplicate optimization flag ({name}) set on shader"
  | .subgroupSize size shader =>
    s!"invalid required subgroup size {size} specified for shader name {shader}"
  | .colorLocationTaken => "can not bind two color buffers to the same LOCATION"
  | .colorBufferBound => "color buffer may only be bound to a PIPELINE once"
  | .notAColorAttachment => "Unable to find requested buffer"
  | .depthBufferBound => "can only bind one depth/stencil buffer in a PIPELINE"
  | .indexBufferBound => "can only bind one INDEX_DATA buffer in a pipeline"
  | .vertexLocationTaken => "can not bind two vertex buffers to the same LOCATION"
  | .pushConstantsBound => "can only bind one push constant buffer in a PIPELINE"
  | .duplicateGroup name => s!"duplicate shader group name provided: {name}"
  | .duplicateTable name => s!"duplicate SBT name provided: {name}"
  | .failedBefore pipeline => s!"pipeline {pipeline} failed validation"
  | .colorSizeDiffers => "shared framebuffer must have same size over all PIPELINES"
  | .depthSizeDiffers => "shared depth buffer must have same size over all PIPELINES"
  | .boundWithoutFormat descriptorSet binding =>
    s!"buffer ({descriptorSet}:{binding}) requires a format"
  | .noColorAttachment => "PIPELINE missing color attachment"
  | .noVertexShader => "graphics pipeline requires a vertex shader"
  | .noFragmentShader => "graphics pipeline requires a fragment shader"
  | .zeroWidthLevel mipLevels level =>
    s!"color attachment with {mipLevels} mip levels would have zero width for level {level}"
  | .zeroHeightLevel mipLevels level =>
    s!"color attachment with {mipLevels} mip levels would have zero height for level {level}"
  | .noComputeShader => "compute pipeline requires a compute shader"
  | .noRayGenerationShader => "ray tracing pipeline requires a ray generation shader"
  | .noShaderGroup => "ray tracing pipeline requires at least one shader group"
  | .mixedGroup group => s!"shader group {group} can not be both a general and a hit group"
  | .emptyGroup group => s!"shader group {group} has no shaders"
  | .groupShaderMissing group =>
    s!"shader group {group} references a shader not attached to the pipeline"
  | .groupShaderStage group slot => s!"shader group {group} has a {slot} shader of the wrong stage"
  | .unknownGroup table group => s!"SBT {table} references unknown shader group {group}"
  | .samplerKind => "Sampler bound to non-sampler kernel arg"
  | .bindingKind buffer kind => s!"Buffer {buffer} must be a {kind} binding"
  | .unhandledBufferType => "Unhandled buffer type for OPENCL-C shader"
  | .noArgumentEntry kernel argument =>
    s!"could not find descriptor map entry for SET command: kernel {kernel}, {argument}"
  | .argumentSize kernel argument =>
    s!"SET command uses incorrect data size: kernel {kernel}, {argument}"
  | .argumentSlotTaken buffer descriptorSet binding =>
    s!"previously bound buffer {buffer} to PoD args at " ++
      s!"descriptor set {descriptorSet} binding {binding}"
  | .unalignedPushConstant offset size =>
    s!"push constant at offset {offset} with size {size} is not word aligned"
  | .widthLimit field bits value => s!"{field} must fit in {bits} bits, got: {value}"
  | .transformSize count => s!"transform must have 12 values, got: {count}"

end GpuScript
