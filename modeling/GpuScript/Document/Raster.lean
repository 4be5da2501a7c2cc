import GpuScript.Document.Basic
import GpuScript.Raster.Label
import GpuScript.Raster.State

namespace GpuScript.Document

def ofViewport (viewport : Viewport) : Document :=
  .record [("x", .single viewport.x), ("y", .single viewport.y), ("w", .single viewport.width),
    ("h", .single viewport.height), ("min_depth", .single viewport.minDepth),
    ("max_depth", .single viewport.maxDepth)]

def ofRasterState (state : RasterState) : Document :=
  .record [
    ("front_fail_op", .text state.frontFailOp.label),
    ("front_pass_op", .text state.frontPassOp.label),
    ("front_depth_fail_op", .text state.frontDepthFailOp.label),
    ("front_compare_op", .text state.frontCompareOp.label),
    ("back_fail_op", .text state.backFailOp.label),
    ("back_pass_op", .text state.backPassOp.label),
    ("back_depth_fail_op", .text state.backDepthFailOp.label),
    ("back_compare_op", .text state.backCompareOp.label),
    ("topology", .text state.topology.label),
    ("polygon_mode", .text state.polygonMode.label),
    ("cull_mode", .text state.cullMode.label),
    ("front_face", .text state.frontFace.label),
    ("depth_compare_op", .text state.depthCompareOp.label),
    ("logic_op", .text state.logicOp.label),
    ("src_color_blend_factor", .text state.srcColorBlendFactor.label),
    ("dst_color_blend_factor", .text state.dstColorBlendFactor.label),
    ("src_alpha_blend_factor", .text state.srcAlphaBlendFactor.label),
    ("dst_alpha_blend_factor", .text state.dstAlphaBlendFactor.label),
    ("color_blend_op", .text state.colorBlendOp.label),
    ("alpha_blend_op", .text state.alphaBlendOp.label),
    ("front_compare_mask", .count state.frontCompareMask),
    ("front_write_mask", .count state.frontWriteMask),
    ("front_reference", .count state.frontReference),
    ("back_compare_mask", .count state.backCompareMask),
    ("back_write_mask", .count state.backWriteMask),
    ("back_reference", .count state.backReference),
    ("color_write_mask", .count state.colorWriteMask),
    ("enable_blend", .truth state.enableBlend),
    ("enable_depth_test", .truth state.enableDepthTest),
    ("enable_depth_write", .truth state.enableDepthWrite),
    ("enable_depth_clamp", .truth state.enableDepthClamp),
    ("enable_depth_bias", .truth state.enableDepthBias),
    ("enable_depth_bounds_test", .truth state.enableDepthBoundsTest),
    ("enable_stencil_test", .truth state.enableStencilTest),
    ("enable_primitive_restart", .truth state.enablePrimitiveRestart),
    ("enable_rasterizer_discard", .truth state.enableRasterizerDiscard),
    ("enable_logic_op", .truth state.enableLogicOp),
    ("line_width", .single state.lineWidth),
    ("depth_bias_constant_factor", .single state.depthBiasConstantFactor),
    ("depth_bias_clamp", .single state.depthBiasClamp),
    ("depth_bias_slope_factor", .single state.depthBiasSlopeFactor),
    ("min_depth_bounds", .single state.minDepthBounds),
    ("max_depth_bounds", .single state.maxDepthBounds),
    ("viewport", optional ofViewport state.viewport),
    ("patch_control_points", .count state.patchControlPoints)]

/-- The fields in which a state differs from that of a new pipeline. -/
def ofRasterChanges (state : RasterState) : Document :=
  .record (((ofRasterState state).fields.zip (ofRasterState {}).fields).filterMap fun pair =>
    if pair.1 == pair.2 then none else some pair.1)

end GpuScript.Document
