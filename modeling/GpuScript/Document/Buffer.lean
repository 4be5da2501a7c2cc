import GpuScript.Buffer.Basic
import GpuScript.Document.Format

namespace GpuScript

namespace BufferKind

def label : BufferKind → String
  | .unknown => "unknown"
  | .color => "color"
  | .depthStencil => "depth_stencil"
  | .index => "index"
  | .sampledImage => "sampled_image"
  | .combinedImageSampler => "combined_image_sampler"
  | .storage => "storage"
  | .storageDynamic => "storage_dynamic"
  | .uniform => "uniform"
  | .uniformDynamic => "uniform_dynamic"
  | .pushConstant => "push_constant"
  | .vertex => "vertex"
  | .storageImage => "storage_image"
  | .uniformTexelBuffer => "uniform_texel_buffer"
  | .storageTexelBuffer => "storage_texel_buffer"
  | .resolve => "resolve"

def all : List BufferKind :=
  [.unknown, .color, .depthStencil, .index, .sampledImage, .combinedImageSampler, .storage,
    .storageDynamic, .uniform, .uniformDynamic, .pushConstant, .vertex, .storageImage,
    .uniformTexelBuffer, .storageTexelBuffer, .resolve]

instance : Labelled BufferKind where
  all := all
  label := label
  complete := by intro value; cases value <;> decide
  distinct := by decide

end BufferKind

namespace InputRate

def label : InputRate → String
  | .perVertex => "vertex"
  | .perInstance => "instance"

def all : List InputRate :=
  [.perVertex, .perInstance]

instance : Labelled InputRate where
  all := all
  label := label
  complete := by intro value; cases value <;> decide
  distinct := by decide

end InputRate

namespace Document

/-- The number of an item. -/
def ofId {Item : Type} (id : Id Item) : Document := .count id.index

def ofBuffer (buffer : Buffer) : Document :=
  .record [("name", .text buffer.name), ("buffer_type", .text buffer.kind.label),
    ("format", optional ofFormat buffer.format),
    ("format_is_default", .truth buffer.formatIsDefault),
    ("element_count", .count buffer.elementCount),
    ("max_size_in_bytes", .count buffer.recordedSize), ("sampler", optional ofId buffer.sampler),
    ("width", .count buffer.width), ("height", .count buffer.height),
    ("depth", .count buffer.depth), ("mip_levels", .count buffer.mipLevels),
    ("samples", .count buffer.samples)]

end Document

end GpuScript
