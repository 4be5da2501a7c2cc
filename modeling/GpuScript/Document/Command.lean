import GpuScript.Command
import GpuScript.Document.Pipeline

namespace GpuScript

namespace BufferRole

def label : BufferRole → String
  | .ssbo => "ssbo"
  | .ssboDynamic => "ssbo_dynamic"
  | .uniform => "uniform"
  | .uniformDynamic => "uniform_dynamic"
  | .pushConstant => "push_constant"
  | .storageImage => "storage_image"
  | .sampledImage => "sampled_image"
  | .combinedImageSampler => "combined_image_sampler"
  | .uniformTexelBuffer => "uniform_texel_buffer"
  | .storageTexelBuffer => "storage_texel_buffer"

def all : List BufferRole :=
  [.ssbo, .ssboDynamic, .uniform, .uniformDynamic, .pushConstant, .storageImage, .sampledImage,
    .combinedImageSampler, .uniformTexelBuffer, .storageTexelBuffer]

instance : Labelled BufferRole where
  all := all
  label := label
  complete := by intro value; cases value <;> decide
  distinct := by decide

end BufferRole

namespace BufferComparator

def label : BufferComparator → String
  | .equal => "eq"
  | .rootMeanSquare => "rmse"
  | .earthMovers => "histogram_emd"

def all : List BufferComparator := [.equal, .rootMeanSquare, .earthMovers]

instance : Labelled BufferComparator where
  all := all
  label := label
  complete := by intro value; cases value <;> decide
  distinct := by decide

end BufferComparator

namespace ProbeChannels

def label : ProbeChannels → String
  | .rgb => "rgb"
  | .rgba => "rgba"

def all : List ProbeChannels :=
  [.rgb, .rgba]

instance : Labelled ProbeChannels where
  all := all
  label := label
  complete := by intro value; cases value <;> decide
  distinct := by decide

end ProbeChannels

namespace ProbeComparator

def label : ProbeComparator → String
  | .equal => "equal"
  | .notEqual => "not_equal"
  | .fuzzyEqual => "fuzzy_equal"
  | .less => "less"
  | .lessOrEqual => "less_or_equal"
  | .greater => "greater"
  | .greaterOrEqual => "greater_or_equal"

def all : List ProbeComparator :=
  [.equal, .notEqual, .fuzzyEqual, .less, .lessOrEqual, .greater, .greaterOrEqual]

instance : Labelled ProbeComparator where
  all := all
  label := label
  complete := by intro value; cases value <;> decide
  distinct := by decide

end ProbeComparator

namespace Document

/-- The fields of a command that runs on a pipeline. -/
def headFields (head : CommandHead) : List (String × Document) :=
  [("line", .count head.line), ("pipeline", ofId head.pipeline), ("timed", .truth head.timed)]

def areaFields (area : Rectangle) : List (String × Document) :=
  [("x", .single area.x), ("y", .single area.y), ("width", .single area.width),
    ("height", .single area.height)]

def colorFields (color : Color) : List (String × Document) :=
  [("r", .single color.red), ("g", .single color.green), ("b", .single color.blue),
    ("a", .single color.alpha)]

def gridFields (grid : GridSize) : List (String × Document) :=
  [("x", .count grid.x), ("y", .count grid.y), ("z", .count grid.z)]

def ofTolerance (tolerance : Tolerance) : Document :=
  .record [("is_percent", .truth tolerance.isPercent), ("value", .double tolerance.value)]

def drawFields (draw : ArrayDraw) : List (String × Document) :=
  [("is_indexed", .truth draw.indexed), ("is_instanced", .truth draw.instanced),
    ("topology", .text draw.topology.label), ("first_vertex_index", .count draw.firstVertex),
    ("vertex_count", .count draw.vertexCount), ("first_instance", .count draw.firstInstance),
    ("instance_count", .count draw.instanceCount)]

def writeFields (write : BufferWrite) : List (String × Document) :=
  [("buffer_type", .text write.role.label), ("buffer", ofId write.buffer),
    ("sampler", optional ofId write.sampler)] ++ slotFields write.slot ++
  [("is_subdata", .truth write.isSubdata), ("offset", .count write.offset),
    ("base_mip_level", .count write.baseMipLevel), ("dynamic_offset", .count write.dynamicOffset),
    ("descriptor_offset", .count write.descriptorOffset),
    ("descriptor_range", .count write.descriptorRange), ("values", listOf ofValue write.values)]

def probeFields (probe : Probe) : List (String × Document) :=
  [("buffer", ofId probe.buffer), ("tolerances", listOf ofTolerance probe.tolerances),
    ("is_whole_window", .truth probe.isWholeWindow), ("is_probe_rect", .truth probe.isRectangle),
    ("is_relative", .truth probe.isRelative), ("color_format", .text probe.channels.label)] ++
  areaFields probe.area ++ colorFields probe.color

def storageProbeFields (probe : StorageProbe) : List (String × Document) :=
  [("buffer", ofId probe.buffer), ("tolerances", listOf ofTolerance probe.tolerances),
    ("comparator", .text probe.comparator.label)] ++ slotFields probe.slot ++
  [("offset", .count probe.offset), ("format", ofId probe.format),
    ("values", listOf ofValue probe.values)]

def tableFields (tables : RayTables) : List (String × Document) :=
  [("raygen_sbt", optional .text tables.generation), ("miss_sbt", optional .text tables.miss),
    ("hit_sbt", optional .text tables.hit), ("callable_sbt", optional .text tables.callable)]

mutual

/-- The description of a command; how fixed-function state is described is left to the caller. -/
def ofCommand (describeState : RasterState → Document) : Command → Document
  | .clear head => tagged "command" "clear" (headFields head)
  | .clearColor head color => tagged "command" "clear_color" (headFields head ++ colorFields color)
  | .clearDepth head value =>
    tagged "command" "clear_depth" (headFields head ++ [("value", .single value)])
  | .clearStencil head value =>
    tagged "command" "clear_stencil" (headFields head ++ [("value", .count value)])
  | .drawRect head state isOrtho isPatch area =>
    tagged "command" "draw_rect" (headFields head ++ [("data", describeState state),
      ("is_ortho", .truth isOrtho), ("is_patch", .truth isPatch)] ++ areaFields area)
  | .drawGrid head state area columns rows =>
    tagged "command" "draw_grid" (headFields head ++ [("data", describeState state)] ++
      areaFields area ++ [("columns", .count columns), ("rows", .count rows)])
  | .drawArrays head state draw =>
    tagged "command" "draw_arrays" (headFields head ++ [("data", describeState state)] ++
      drawFields draw)
  | .compute head groups => tagged "command" "compute" (headFields head ++ gridFields groups)
  | .traceRays head tables rays =>
    tagged "command" "ray_tracing" (headFields head ++ tableFields tables ++ gridFields rays)
  | .patchVertices head points =>
    tagged "command" "patch_parameter_vertices" (headFields head ++
      [("control_point_count", .count points)])
  | .entryPoint head stage name =>
    tagged "command" "entry_point" (headFields head ++ [("shader_type", .text stage.label),
      ("entry_point_name", .text name)])
  | .buffer head write => tagged "command" "buffer" (headFields head ++ writeFields write)
  | .sampler head slot sampler =>
    tagged "command" "sampler" (headFields head ++ slotFields slot ++ [("sampler", ofId sampler)])
  | .topLevel head slot structureId =>
    tagged "command" "tlas" (headFields head ++ slotFields slot ++ [("tlas", ofId structureId)])
  | .copy line source target =>
    tagged "command" "copy" [("line", .count line), ("buffer_from", ofId source),
      ("buffer_to", ofId target)]
  | .compare line first second comparator tolerance =>
    tagged "command" "compare_buffer" [("line", .count line), ("buffer_1", ofId first),
      ("buffer_2", ofId second), ("comparator", .text comparator.label),
      ("tolerance", .single tolerance)]
  | .probe line probe => tagged "command" "probe" (("line", .count line) :: probeFields probe)
  | .probeStorage line probe =>
    tagged "command" "probe_ssbo" (("line", .count line) :: storageProbeFields probe)
  | .repeatAll line times commands =>
    tagged "command" "repeat" [("line", .count line), ("count", .count times),
      ("commands", .list (ofCommands describeState commands))]

def ofCommands (describeState : RasterState → Document) : List Command → List Document
  | [] => []
  | command :: rest => ofCommand describeState command :: ofCommands describeState rest

end

end Document

end GpuScript
