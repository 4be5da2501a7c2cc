import GpuScript.Document.Acceleration
import GpuScript.Document.Raster
import GpuScript.Pipeline.Basic

namespace GpuScript

namespace PipelineKind

def label : PipelineKind → String
  | .graphics => "graphics"
  | .compute => "compute"
  | .rayTracing => "ray_tracing"

def all : List PipelineKind :=
  [.graphics, .compute, .rayTracing]

instance : Labelled PipelineKind where
  all := all
  label := label
  complete := by intro value; cases value <;> decide
  distinct := by decide

end PipelineKind

namespace Validity

def label : Validity → String
  | .draft => "draft"
  | .valid => "valid"
  | .invalid => "invalid"

def all : List Validity :=
  [.draft, .valid, .invalid]

instance : Labelled Validity where
  all := all
  label := label
  complete := by intro value; cases value <;> decide
  distinct := by decide

end Validity

namespace ArgumentKind

def label : ArgumentKind → String
  | .unknown => "unknown"
  | .ssbo => "ssbo"
  | .ubo => "ubo"
  | .pod => "pod"
  | .podUbo => "pod_ubo"
  | .podPushConstant => "pod_push_constant"
  | .roImage => "ro_image"
  | .woImage => "wo_image"
  | .sampler => "sampler"

def all : List ArgumentKind :=
  [.unknown, .ssbo, .ubo, .pod, .podUbo, .podPushConstant, .roImage, .woImage, .sampler]

instance : Labelled ArgumentKind where
  all := all
  label := label
  complete := by intro value; cases value <;> decide
  distinct := by decide

end ArgumentKind

namespace PushConstantKind

def label : PushConstantKind → String
  | .dimensions => "dimensions"
  | .globalOffset => "global_offset"
  | .regionOffset => "region_offset"

def all : List PushConstantKind :=
  [.dimensions, .globalOffset, .regionOffset]

instance : Labelled PushConstantKind where
  all := all
  label := label
  complete := by intro value; cases value <;> decide
  distinct := by decide

end PushConstantKind

namespace Document

def slotFields (slot : BindingSlot) : List (String × Document) :=
  [("descriptor_set", .count slot.descriptorSet), ("binding", .count slot.binding)]

def ofArgumentEntry (entry : ArgumentEntry) : Document :=
  .record ([("arg_name", .text entry.name), ("kind", .text entry.kind.label)] ++
    slotFields entry.slot ++
    [("arg_ordinal", .count entry.ordinal), ("pod_offset", .count entry.offset),
      ("pod_arg_size", .count entry.size)])

def ofPushConstant (range : PushConstant) : Document :=
  .record [("push_constant_type", .text range.kind.label), ("offset", .count range.offset),
    ("size", .count range.size)]

def ofSubgroupSize : SubgroupSize → Document
  | .notSet => tagged "policy" "not_set" []
  | .specific size => tagged "policy" "specific" [("size", .count size)]
  | .minimum => tagged "policy" "minimum" []
  | .maximum => tagged "policy" "maximum" []

def ofAttachedShader (attached : AttachedShader) : Document :=
  .record [("shader", ofId attached.shader), ("shader_name", .text attached.name),
    ("shader_format", .text attached.format.label), ("shader_type", .text attached.stage.label),
    ("entry_point", .text attached.entryPoint),
    ("optimizations", listOf .text attached.optimizations),
    ("required_subgroup_size", ofSubgroupSize attached.subgroupSize),
    ("compile_options", listOf .text attached.compileOptions),
    ("varying_subgroup_size", .truth attached.varyingSubgroupSize),
    ("require_full_subgroups", .truth attached.requireFullSubgroups),
    ("emit_debug_info", .truth attached.emitDebugInfo),
    ("specialization", .record (attached.specialization.map fun entry =>
      (toString entry.1, .count entry.2))),
    ("data", listOf .count attached.words),
    ("descriptor_map", .record (attached.argumentMap.map fun entry =>
      (entry.1, listOf ofArgumentEntry entry.2))),
    ("push_constants", listOf ofPushConstant attached.pushConstants)]

def ofBufferBinding (binding : BufferBinding) : Document :=
  .record ([("buffer", ofId binding.buffer), ("buffer_type", .text binding.kind.label)] ++
    slotFields binding.slot ++
    [("location", .count binding.location), ("base_mip_level", .count binding.baseMipLevel),
      ("dynamic_offset", .count binding.dynamicOffset), ("arg_name", .text binding.argumentName),
      ("arg_no", .count binding.argumentNumber), ("input_rate", .text binding.inputRate.label),
      ("format", optional ofFormat binding.format), ("offset", .count binding.offset),
      ("stride", .count binding.stride), ("sampler", optional ofId binding.sampler),
      ("descriptor_offset", .count binding.descriptorOffset),
      ("descriptor_range", .count binding.descriptorRange)])

def ofSamplerBinding (binding : SamplerBinding) : Document :=
  .record ([("sampler", optional ofId binding.sampler)] ++ slotFields binding.slot ++
    [("arg_name", .text binding.argumentName), ("arg_no", .count binding.argumentNumber),
      ("mask", .count binding.mask)])

def ofTopLevelBinding (binding : TopLevelBinding) : Document :=
  .record (("tlas", ofId binding.structureId) :: slotFields binding.slot)

def ofArgumentValue (argument : ArgumentValue) : Document :=
  .record [("name", .text argument.name), ("ordinal", .count argument.ordinal),
    ("format", ofFormat argument.format), ("value", ofValue argument.value)]

def ofPipeline (describeState : RasterState → Document) (pipeline : Pipeline) : Document :=
  .record [("name", .text pipeline.name), ("pipeline_type", .text pipeline.kind.label),
    ("state", .text pipeline.validity.label), ("shaders", listOf ofAttachedShader pipeline.shaders),
    ("color_attachments", listOf ofBufferBinding pipeline.colorAttachments),
    ("resolve_targets", listOf ofBufferBinding pipeline.resolveTargets),
    ("vertex_buffers", listOf ofBufferBinding pipeline.vertexBuffers),
    ("buffers", listOf ofBufferBinding pipeline.buffers),
    ("samplers", listOf ofSamplerBinding pipeline.samplers),
    ("tlases", listOf ofTopLevelBinding pipeline.topLevels),
    ("depth_stencil_buffer", optional ofBufferBinding pipeline.depthStencil),
    ("index_buffer", optional ofId pipeline.indexBuffer),
    ("push_constant_buffer", optional ofBufferBinding pipeline.pushConstants),
    ("fb_width", .count pipeline.width), ("fb_height", .count pipeline.height),
    ("pipeline_data", describeState pipeline.state),
    ("set_arg_values", listOf ofArgumentValue pipeline.argumentValues),
    ("pod_buffers", .record (pipeline.argumentBuffers.map fun entry =>
      (toString entry.1.descriptorSet ++ "," ++ toString entry.1.binding, ofId entry.2))),
    ("literal_samplers", listOf ofId pipeline.literalSamplers),
    ("shader_groups", listOf ofGroup pipeline.groups), ("sbts", listOf ofTable pipeline.tables),
    ("max_ray_payload_size", .count pipeline.maxRayPayloadSize),
    ("max_ray_hit_attribute_size", .count pipeline.maxRayHitAttributeSize),
    ("max_ray_recursion_depth", .count pipeline.maxRayRecursionDepth),
    ("create_flags", .count pipeline.createFlags)]

end Document

end GpuScript
